import TabCompletion.Proofs.Draft.Accepting

/-! # Splitting off the command being typed

The word of a draft is what a search from the left finds: at the first place from which a run of
word characters reaches the end of the text, or a line end that closes it. The finished words are
those after the last character that opens a command, and whatever stands before it plays no part. -/

namespace TabCompletion.Draft

open Text

variable {p : Char → Bool} {text before word head rest : List Char}

/-! ## The longest end -/

/-- An end of a text whose characters have a property, and which no other such end exceeds. -/
structure IsLongestEnd (P : Char → Prop) (text word : List Char) : Prop where
  suffix : word <:+ text
  all : ∀ c ∈ word, P c
  longest : ∀ other, other <:+ text → (∀ c ∈ other, P c) → other <:+ word

theorem isLongestEnd_longestSuffix (p : Char → Bool) (text : List Char) :
    IsLongestEnd (fun c => p c = true) text (longestSuffix p text) := by
  obtain ⟨before, hsplit, hall, -⟩ := exists_append_longestSuffix p text
  refine ⟨⟨before, hsplit.symm⟩, hall, ?_⟩
  rintro other ⟨front, rfl⟩ hother
  rw [longestSuffix_append_of_all hother]
  exact List.suffix_append _ other

/-! ## Searching from the left -/

/-- A place in a text from which a run of characters reaches its end, or a line end that closes
it. -/
structure RunsOut (p : Char → Bool) (text before run rest : List Char) : Prop where
  split : text = before ++ run ++ rest
  all : ∀ c ∈ run, p c = true
  rest : rest = [] ∨ rest = ['\n']

/-- What is found by trying the places of a text from the left: at the first place from which a run
reaches the end there is no other run that does. -/
def IsFoundFirst (p : Char → Bool) (text word : List Char) : Prop :=
  ∃ before rest, RunsOut p text before word rest ∧
    ∀ before' word' rest', RunsOut p text before' word' rest' →
      before.length < before'.length ∨ before' = before ∧ word' = word

theorem withoutLineEnd_concat (text : List Char) : withoutLineEnd (text ++ ['\n']) = text := by
  simp [withoutLineEnd]

theorem exists_withoutLineEnd_append (text : List Char) :
    ∃ rest, text = withoutLineEnd text ++ rest ∧ (rest = [] ∨ rest = ['\n']) := by
  by_cases hlast : text.getLast? = some '\n'
  · obtain ⟨body, rfl⟩ := List.getLast?_eq_some_iff.mp hlast
    exact ⟨['\n'], by rw [withoutLineEnd_concat], .inr rfl⟩
  · exact ⟨[], by rw [withoutLineEnd_eq_self hlast, List.append_nil], .inl rfl⟩

/-- A run that reaches the end of a text ends the text without its closing line end, or else it is
empty and stands behind that line end. -/
theorem RunsOut.withoutLineEnd_eq (h : RunsOut p text before word rest) (hp : p '\n' = false) :
    withoutLineEnd text = before ++ word ∨ before.length = (withoutLineEnd text).length + 1 := by
  have hsplit := h.split
  rcases h.rest with rfl | rfl
  · rw [List.append_nil] at hsplit
    by_cases hlast : text.getLast? = some '\n'
    · right
      have hword : word = [] := by
        by_contra hne
        rw [hsplit, List.getLast?_append_of_ne_nil _ hne] at hlast
        have hline := h.all '\n' (List.mem_of_getLast? hlast)
        simp [hp] at hline
      obtain ⟨body, rfl⟩ := List.getLast?_eq_some_iff.mp hlast
      rw [hword, List.append_nil] at hsplit
      rw [withoutLineEnd_concat, ← hsplit]
      simp
    · left
      rw [withoutLineEnd_eq_self hlast, hsplit]
  · left
    rw [hsplit, withoutLineEnd_concat]

/-- Of the ends of a text whose characters have a property, the longest one starts first. -/
theorem lt_or_eq_of_longestSuffix {before' word' : List Char}
    (h : before' ++ word' = before ++ longestSuffix p (before' ++ word'))
    (hall : ∀ c ∈ word', p c = true) :
    before.length < before'.length ∨
      before' = before ∧ word' = longestSuffix p (before' ++ word') := by
  rw [longestSuffix_append_of_all hall, ← List.append_assoc] at h
  have hbefore : before' = before ++ longestSuffix p before' := List.append_cancel_right h
  rw [longestSuffix_append_of_all hall]
  cases hmore : longestSuffix p before' with
  | nil =>
      rw [hmore, List.append_nil] at hbefore
      exact .inr ⟨hbefore, rfl⟩
  | cons c more =>
      left
      rw [hbefore, hmore]
      simp

/-- A search from the left finds the longest end of the text without its closing line end. -/
theorem isFoundFirst_longestSuffix (hp : p '\n' = false) (text : List Char) :
    IsFoundFirst p text (longestSuffix p (withoutLineEnd text)) := by
  obtain ⟨before, hbody, hall, -⟩ := exists_append_longestSuffix p (withoutLineEnd text)
  obtain ⟨rest, htext, hrest⟩ := exists_withoutLineEnd_append text
  refine ⟨before, rest, ⟨by rw [← hbody]; exact htext, hall, hrest⟩, ?_⟩
  intro before' word' rest' hruns
  rcases hruns.withoutLineEnd_eq hp with hsame | hlength
  · rw [hsame] at hbody ⊢
    exact lt_or_eq_of_longestSuffix hbody hruns.all
  · left
    have hle := congrArg List.length hbody
    rw [List.length_append] at hle
    omega

/-! ## The last character that opens a command -/

/-- The characters after which a command begins. -/
def openers : List Char := ['[', ';', '{', '\n']

theorem opensCommand_iff (c : Char) : opensCommand c = true ↔ c ∈ openers := by
  simp [opensCommand, openers]

theorem isWordChar_of_mem_openers {c : Char} (h : c ∈ openers) : isWordChar c = false := by
  simp only [openers, List.mem_cons, List.not_mem_nil, or_false] at h
  rcases h with rfl | rfl | rfl | rfl <;> rfl

/-- The place of the last occurrence of a character; −1 if it does not occur. -/
def lastPlace (text : List Char) (c : Char) : Int :=
  text.length - 1 - text.reverse.idxOf c

theorem lastPlace_le (text : List Char) (c : Char) : lastPlace text c ≤ text.length - 1 := by
  unfold lastPlace
  omega

theorem lastPlace_concat (text : List Char) (c : Char) :
    lastPlace (text ++ [c]) c = text.length := by
  simp [lastPlace]

theorem lastPlace_append {c : Char} {rest : List Char} (h : c ∉ rest) (text : List Char) :
    lastPlace (text ++ rest) c = lastPlace text c := by
  have hreverse : c ∉ rest.reverse := by simpa using h
  simp only [lastPlace, List.reverse_append, List.idxOf_append_of_notMem hreverse,
    List.length_append, List.length_reverse]
  omega

/-- What stands before a command reaches to the last of the characters that open one. -/
theorem max?_lastPlace {before command : List Char}
    (hbefore : ∀ c, before.getLast? = some c → c ∈ openers)
    (hcommand : ∀ c ∈ command, c ∉ openers) :
    (openers.map (lastPlace (before ++ command))).max? = some (before.length - 1 : Int) := by
  have hplace : ∀ c ∈ openers, lastPlace (before ++ command) c = lastPlace before c := by
    intro c hc
    exact lastPlace_append (fun hmem => hcommand c hmem hc) before
  rw [List.map_congr_left hplace, List.max?_eq_some_iff]
  constructor
  · cases hlast : before.getLast? with
    | none =>
        rw [List.getLast?_eq_none_iff.mp hlast]
        decide
    | some c =>
        obtain ⟨front, rfl⟩ := List.getLast?_eq_some_iff.mp hlast
        refine List.mem_map.mpr ⟨c, hbefore c hlast, ?_⟩
        rw [lastPlace_concat]
        simp
  · intro place hplaces
    obtain ⟨c, -, rfl⟩ := List.mem_map.mp hplaces
    exact lastPlace_le before c

/-! ## Drafts -/

/-- A draft is split off a text. Its word is the longest end of the text without a closing line end
that holds no blank and no character that structures a script, and it is found by a search from the
left. Its finished words are the pieces of what lies after the last character that opens a command
among those before the word, as many as the text has more than the word. -/
structure Splits (text : String) (draft : Draft) : Prop where
  word_longest : IsLongestEnd (fun c => isBlank c = false ∧ c ∉ structural)
    (withoutLineEnd text.toList) draft.word.toList
  word_found : IsFoundFirst isWordChar text.toList draft.word.toList
  words : ∃ before command,
    text.toList.take (text.length - draft.word.length) = before ++ command ∧
      (∀ c, before.getLast? = some c → c ∈ openers) ∧ (∀ c ∈ command, c ∉ openers) ∧
      (openers.map (lastPlace (before ++ command))).max? = some (before.length - 1 : Int) ∧
      draft.words = pieces (String.ofList command)

theorem exists_commandOf (text : List Char) :
    ∃ before, headOf text = before ++ commandOf text ∧
      (∀ c, before.getLast? = some c → c ∈ openers) ∧ ∀ c ∈ commandOf text, c ∉ openers := by
  obtain ⟨before, hsplit, hcommand, hbefore⟩ :=
    exists_append_longestSuffix (fun c => !opensCommand c) (headOf text)
  refine ⟨before, hsplit, ?_, ?_⟩
  · intro c hc
    simpa [opensCommand_iff] using hbefore c hc
  · intro c hc
    simpa [← opensCommand_iff] using hcommand c hc

/-- Characters before a command do not belong to its draft. -/
theorem EndsIn.ofText_eq {before command word : List Char} {text : String}
    (h : EndsIn (before ++ command) word text.toList)
    (hbefore : ∀ c, before.getLast? = some c → c ∈ openers)
    (hcommand : ∀ c ∈ command, c ∉ openers) :
    ofText text = ⟨pieces (String.ofList command), String.ofList word⟩ := by
  have hlast : longestSuffix (fun c => !opensCommand c) (before ++ command) = command := by
    refine longestSuffix_append ?_ ?_
    · intro c hc
      simpa [← opensCommand_iff] using hcommand c hc
    · intro c hc
      simpa [opensCommand_iff] using hbefore c hc
  rw [ofText, commandOf, h.headOf_eq, h.wordOf_eq, hlast]

theorem EndsIn.prepend {pre before word text : List Char} (h : EndsIn before word text)
    (hpre : ∀ c, pre.getLast? = some c → c ∈ openers) (hne : text ≠ []) :
    EndsIn (pre ++ before) word (pre ++ text) := by
  refine ⟨by rw [h.split, List.append_assoc], h.word, ?_, ?_⟩
  · intro c hc
    by_cases hbefore : before = []
    · rw [hbefore, List.append_nil] at hc
      exact isWordChar_of_mem_openers (hpre c hc)
    · rw [List.getLast?_append_of_ne_nil _ hbefore] at hc
      exact h.before c hc
  · rw [List.getLast?_append_of_ne_nil _ hne]
    exact h.last

theorem splits_self (text : String) : Splits text (ofText text) := by
  have hword : (ofText text).word.toList = wordOf text.toList := String.toList_ofList
  have hhead : text.toList.take (text.length - (ofText text).word.length) = headOf text.toList := by
    rw [headOf, ← hword, String.length_toList, String.length_toList]
  obtain ⟨before, hbefore, hopens, hcommand⟩ := exists_commandOf text.toList
  refine ⟨?_, ?_, before, commandOf text.toList, hhead.trans hbefore, hopens, hcommand, ?_, ?_⟩
  · simpa only [hword, wordOf, isWordChar_iff] using
      isLongestEnd_longestSuffix isWordChar (withoutLineEnd text.toList)
  · rw [hword]
    exact isFoundFirst_longestSuffix (by decide) text.toList
  · exact max?_lastPlace hopens hcommand
  · rw [ofText]

/-- In a text without characters that open a command, the finished words are the pieces of all that
stands before the word; and they stay so behind any text that ends with such a character. -/
theorem ofText_append {pre rest : String} (hpre : ∀ c, pre.toList.getLast? = some c → c ∈ openers)
    (hne : rest ≠ "") (hrest : ∀ c ∈ rest.toList, c ∉ openers) :
    ofText (pre ++ rest) = ofText rest ∧
      ∃ head, rest = head ++ (ofText rest).word ∧ (ofText rest).words = pieces head := by
  have hlast : rest.toList.getLast? ≠ some '\n' := by
    intro hlast
    exact hrest '\n' (List.mem_of_getLast? hlast) (by decide)
  obtain ⟨head, hends⟩ := exists_endsIn hlast
  have hhead : ∀ c ∈ head, c ∉ openers := by
    intro c hc
    refine hrest c ?_
    rw [hends.split]
    exact List.mem_append_left _ hc
  have hstart : EndsIn ([] ++ head) (wordOf rest.toList) rest.toList := hends
  have halone := hstart.ofText_eq (by simp) hhead
  have hbehind := hends.prepend hpre (by simpa using hne)
  rw [← String.toList_append] at hbehind
  refine ⟨(hbehind.ofText_eq hpre hhead).trans halone.symm, String.ofList head, ?_, ?_⟩
  · apply String.toList_injective
    rw [halone]
    simpa using hends.split
  · rw [halone]

/-- The draft of a text is split off it, and depends only on what lies after the last character that
opens a command. -/
theorem splits_ofText (text : String) :
    Splits text (ofText text) ∧
      ∀ pre rest : String, text = pre ++ rest →
        (∀ c, pre.toList.getLast? = some c → c ∈ openers) → rest ≠ "" →
        (∀ c ∈ rest.toList, c ∉ openers) →
        ofText text = ofText rest ∧
          ∃ head, rest = head ++ (ofText rest).word ∧ (ofText rest).words = pieces head := by
  refine ⟨splits_self text, ?_⟩
  rintro pre rest rfl hpre hne hrest
  exact ofText_append hpre hne hrest

theorem splits_ofText_nested :
    Splits "set x [$o me" (ofText "set x [$o me") ∧ ofText "set x [$o me" = ofText "$o me" ∧
      ∃ head, "$o me" = head ++ (ofText "$o me").word ∧ (ofText "$o me").words = pieces head := by
  have hpre : ∀ c, "set x [".toList.getLast? = some c → c ∈ openers := by
    intro c hc
    obtain rfl : '[' = c := Option.some.inj hc
    decide
  have hrest : ∀ c ∈ "$o me".toList, c ∉ openers := by
    simp [openers]
  obtain ⟨hsplits, hlocal⟩ := splits_ofText "set x [$o me"
  exact ⟨hsplits, hlocal "set x [" "$o me" rfl hpre (by decide) hrest⟩

end TabCompletion.Draft
