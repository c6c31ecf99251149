import Mathlib.Data.List.Forall2
import TabCompletion.Json.Reading
import TabCompletion.Proofs.Text.Units

/-! # What was written as JSON is read back

Every reader takes from the front of a text just what was written there, whatever follows. -/

namespace TabCompletion

namespace Json

/-! ## Numbers of characters -/

theorem hexValue?_hexDigit {n : Nat} (h : n < 16) : hexValue? (Text.hexDigit n) = some n := by
  revert n
  decide

theorem hexNumber?_unit {unit : Nat} (h : unit < 0x10000) :
    hexNumber? 0 (Text.hexDigits 4 unit) = some unit := by
  have hdigit := fun n : Nat => hexValue?_hexDigit (n := n % 16) (Nat.mod_lt n (by decide))
  simp only [Text.hexDigits, List.nil_append, List.cons_append, hexNumber?, hdigit,
    Option.bind_eq_bind, Option.bind_some, Option.some.injEq]
  omega

/-! ## Texts -/

/-- Reads on after some units. -/
def after (units : List Nat) : Option (List Nat × List Char) → Option (List Nat × List Char) :=
  Option.map fun found => (units ++ found.1, found.2)

theorem unitsRest_unitEscape {unit : Nat} (h : unit < 0x10000) (cs : List Char) :
    unitsRest (unitEscape unit ++ cs) = after [unit] (unitsRest cs) := by
  have hnumber := hexNumber?_unit h
  simp only [unitEscape, Text.hexDigits, List.nil_append, List.cons_append] at hnumber ⊢
  rw [unitsRest, hnumber]
  cases unitsRest cs <;> rfl

/-- A character with a letter of its own is read from that letter. -/
theorem unitsRest_shortEscape {c letter : Char} (h : shortEscape? c = some letter)
    (cs : List Char) :
    unitsRest ('\\' :: letter :: cs) = after (Text.units c) (unitsRest cs) := by
  obtain ⟨escape, hfind, rfl⟩ := Option.map_eq_some_iff.mp h
  have hc : escape.2 = c := by simpa using List.find?_some hfind
  have hmem : escape ∈ shortEscapes := List.mem_of_find?_eq_some hfind
  subst hc
  have hback : ∀ escape ∈ shortEscapes, shortEscaped? escape.1 = some escape.2 ∧ escape.1 ≠ 'u' := by
    decide
  obtain ⟨hletter, hne⟩ := hback escape hmem
  rw [unitsRest.eq_4 _ _ fun _ _ _ _ _ h _ => hne h, hletter]
  cases unitsRest cs <;> rfl

theorem after_append (units more : List Nat) (found : Option (List Nat × List Char)) :
    after (units ++ more) found = after units (after more found) := by
  cases found <;> simp [after]

theorem unitsRest_unitEscapes {units : List Nat} (h : ∀ unit ∈ units, unit < 0x10000)
    (cs : List Char) :
    unitsRest (units.flatMap unitEscape ++ cs) = after units (unitsRest cs) := by
  induction units with
  | nil => cases hrest : unitsRest cs <;> simp [after, hrest]
  | cons unit rest ih =>
      rw [List.flatMap_cons, List.append_assoc, unitsRest_unitEscape (h unit (by simp)),
        ih fun unit hunit => h unit (by simp [hunit]), ← after_append]
      rfl

theorem unitsRest_plainChar {c : Char} (hplain : 32 ≤ c.toNat) (hquote : c ≠ '"')
    (hbackslash : c ≠ '\\') (cs : List Char) :
    unitsRest (c :: cs) = after (Text.units c) (unitsRest cs) := by
  rw [unitsRest.eq_5 _ _ hquote (fun _ _ _ _ _ h _ => hbackslash h)
    (fun _ _ h _ => hbackslash h), if_neg (by simp [hbackslash, hplain])]
  cases unitsRest cs <;> rfl

theorem unitsRest_escapedChar (c : Char) (cs : List Char) :
    unitsRest (escapedChar c ++ cs) = after (Text.units c) (unitsRest cs) := by
  rw [escapedChar]
  cases hshort : shortEscape? c with
  | some letter => exact unitsRest_shortEscape hshort cs
  | none =>
      have hquote : c ≠ '"' := by
        rintro rfl
        exact absurd hshort (by decide)
      have hbackslash : c ≠ '\\' := by
        rintro rfl
        exact absurd hshort (by decide)
      simp only
      split
      · next hplain => exact unitsRest_plainChar hplain.1 hquote hbackslash cs
      · exact unitsRest_unitEscapes (fun _ h => Text.lt_of_mem_units h) cs

theorem unitsRest_escapedChars (text cs : List Char) :
    unitsRest (text.flatMap escapedChar ++ '"' :: cs) = some (text.flatMap Text.units, cs) := by
  induction text with
  | nil => rfl
  | cons c rest ih => rw [List.flatMap_cons, List.append_assoc, unitsRest_escapedChar, ih]; rfl

/-- What was written between quotes is read as it was. -/
theorem textRest_escapedChars (text : String) (cs : List Char) :
    textRest (text.toList.flatMap escapedChar ++ '"' :: cs) = some (text, cs) := by
  simp [textRest, unitsRest_escapedChars, Text.ofUnits?_flatMap_units]

/-! ## Values -/

/-- A text that is read as a value from wherever it stands, after blanks or none. -/
def Reads (depth : Nat) (text : String) (data : Data) : Prop :=
  ∀ cs, value depth (skipBlanks (text.toList ++ cs)) = some (data, cs)

theorem skipBlanks_cons {c : Char} (h : isBlank c = false) (cs : List Char) :
    skipBlanks (c :: cs) = c :: cs := by
  simp [skipBlanks, h]

theorem skipBlanks_space (cs : List Char) : skipBlanks (' ' :: cs) = skipBlanks cs :=
  rfl

theorem toList_string_append (text : String) (cs : List Char) :
    (string text).toList ++ cs = '"' :: (text.toList.flatMap escapedChar ++ '"' :: cs) := by
  simp [string]

theorem reads_string (depth : Nat) (text : String) :
    Reads (depth + 1) (string text) (.text text) := by
  intro cs
  rw [toList_string_append, skipBlanks_cons (by decide), value, textRest_escapedChars]
  · rfl
  · simp

/-! ## Lists of values -/

/-- Between texts that are joined, there are at least as many characters as there are texts but one. -/
theorem length_le_intercalate (texts : List String) :
    texts.length ≤ (", ".intercalate texts).toList.length + 1 := by
  induction texts with
  | nil => simp
  | cons text rest ih =>
      cases rest with
      | nil => simp
      | cons next rest =>
          have hcomma : ", ".toList.length = 2 := rfl
          rw [String.intercalate_cons_cons]
          simp only [String.toList_append, List.length_append, List.length_cons] at ih ⊢
          omega

theorem items_space (value : Reader Data) (bound : Nat) (cs : List Char) :
    items value bound (' ' :: cs) = items value bound cs := by
  cases bound <;> rfl

theorem items_of_reads {depth : Nat} {texts : List String} {found : List Data}
    (h : List.Forall₂ (Reads depth) texts found) (hne : texts ≠ []) (bound : Nat)
    (hbound : texts.length ≤ bound) (cs : List Char) :
    items (value depth) bound ((", ".intercalate texts).toList ++ ']' :: cs) = some (found, cs) := by
  induction h generalizing bound with
  | nil => exact absurd rfl hne
  | @cons text data texts found hfirst hrest ih =>
      obtain ⟨bound, rfl⟩ : ∃ left, bound = left + 1 := ⟨bound - 1, by simp at hbound; omega⟩
      cases hrest with
      | nil =>
          have hend : skipBlanks (']' :: cs) = ']' :: cs := skipBlanks_cons (by decide) cs
          rw [String.intercalate_singleton, items, hfirst]
          simp only [Option.bind_eq_bind, Option.bind_some, hend]
          rfl
      | @cons next data' texts found hnext hrest =>
          have hothers := ih (by simp) bound (by simpa using hbound)
          have hsplit : (", ".intercalate (text :: next :: texts)).toList ++ ']' :: cs =
              text.toList ++ ',' :: ' ' :: ((", ".intercalate (next :: texts)).toList ++ ']' :: cs) := by
            simp [String.intercalate_cons_cons]
          have hcomma := fun rest => skipBlanks_cons (c := ',') (by decide) rest
          rw [hsplit, items, hfirst]
          simp only [Option.bind_eq_bind, Option.bind_some, hcomma, items_space, hothers]
          rfl

/-- Where an array is closed right away, there are no items. -/
theorem items_eq_none {cs rest : List Char} (h : skipBlanks cs = ']' :: rest) (depth bound : Nat) :
    items (value depth) bound cs = none := by
  cases bound with
  | zero => rfl
  | succ bound =>
      rw [items, h]
      cases depth <;> rfl

theorem reads_array {depth : Nat} {texts : List String} {found : List Data}
    (h : List.Forall₂ (Reads depth) texts found) :
    Reads (depth + 1) (array texts) (.list found) := by
  intro cs
  have hsplit : (array texts).toList ++ cs =
      '[' :: ((", ".intercalate texts).toList ++ ']' :: cs) := by simp [array]
  rw [hsplit, skipBlanks_cons (by decide), value]
  cases h with
  | nil => rfl
  | @cons text data texts found hfirst hrest =>
      have hall := List.Forall₂.cons hfirst hrest
      let more := (", ".intercalate (text :: texts)).toList ++ ']' :: cs
      have hbound : (text :: texts).length ≤ more.length := by
        have hlength := length_le_intercalate (text :: texts)
        simp only [more, List.length_append, List.length_cons] at hlength ⊢
        omega
      have hitems := items_of_reads hall (by simp) more.length hbound cs
      split
      · next rest hclosed => cases (items_eq_none hclosed depth _).symm.trans hitems
      · rw [hitems]
        rfl

/-! ## Objects -/

/-- A key with the text of its value, as they are written in an object. -/
def entryText (entry : String × String) : String :=
  string entry.1 ++ ": " ++ entry.2

theorem entry_of_reads {depth : Nat} {text : String} {data : Data} (h : Reads depth text data)
    (key : String) (cs : List Char) :
    entry (value depth) (skipBlanks ((entryText (key, text)).toList ++ cs)) =
      some ((key, data), cs) := by
  have hsplit : (entryText (key, text)).toList ++ cs =
      '"' :: (key.toList.flatMap escapedChar ++ '"' :: ':' :: ' ' :: (text.toList ++ cs)) := by
    simp [entryText, string]
  have hcolon := fun rest => skipBlanks_cons (c := ':') (by decide) rest
  rw [hsplit, skipBlanks_cons (by decide), entry]
  simp only [textRest_escapedChars, Option.bind_eq_bind, Option.bind_some, hcolon,
    skipBlanks_space, h cs]
  rfl

/-- An entry of an object and the text of its key and its value. -/
def ReadsEntry (depth : Nat) (text : String × String) (entry : String × Data) : Prop :=
  text.1 = entry.1 ∧ Reads depth text.2 entry.2

theorem entries_space (value : Reader Data) (bound : Nat) (cs : List Char) :
    entries value bound (' ' :: cs) = entries value bound cs := by
  cases bound <;> rfl

theorem entries_of_reads {depth : Nat} {texts : List (String × String)}
    {found : List (String × Data)}
    (h : List.Forall₂ (ReadsEntry depth) texts found)
    (hkeys : (found.map Prod.fst).Nodup) (hne : texts ≠ []) (bound : Nat)
    (hbound : texts.length ≤ bound) (cs : List Char) :
    entries (value depth) bound
        ((", ".intercalate (texts.map entryText)).toList ++ '\x7d' :: cs) = some (found, cs) := by
  induction h generalizing bound with
  | nil => exact absurd rfl hne
  | @cons text data texts found hfirst hrest ih =>
      obtain ⟨bound, rfl⟩ : ∃ left, bound = left + 1 := ⟨bound - 1, by simp at hbound; omega⟩
      obtain ⟨hkey, hreads⟩ := hfirst
      have hentry := entry_of_reads hreads text.1
      rw [List.map_cons, List.nodup_cons] at hkeys
      cases hrest with
      | nil =>
          have hend : skipBlanks ('\x7d' :: cs) = '\x7d' :: cs := skipBlanks_cons (by decide) cs
          rw [List.map_singleton, String.intercalate_singleton, entries, hentry]
          simp only [Option.bind_eq_bind, Option.bind_some, hend, hkey]
          rfl
      | @cons next data' texts found hnext hrest =>
          have hothers := ih hkeys.2 (by simp) bound (by simpa using hbound)
          have hsplit : (", ".intercalate ((text :: next :: texts).map entryText)).toList ++
              '\x7d' :: cs = (entryText text).toList ++ ',' :: ' ' ::
                ((", ".intercalate ((next :: texts).map entryText)).toList ++ '\x7d' :: cs) := by
            simp [String.intercalate_cons_cons]
          have hcomma := fun rest => skipBlanks_cons (c := ',') (by decide) rest
          have hlookup : (data' :: found).lookup data.1 = none := by
            rw [List.lookup_eq_none_iff]
            intro other hother
            have hne : data.1 ≠ other.1 := by
              intro heq
              exact hkeys.1 (heq ▸ List.mem_map_of_mem hother)
            simpa using hne
          rw [hsplit, entries, hentry]
          simp only [Option.bind_eq_bind, Option.bind_some, hcomma, entries_space, hothers, hkey,
            hlookup]
          rfl

theorem entries_eq_none {cs rest : List Char} (h : skipBlanks cs = '\x7d' :: rest)
    (depth bound : Nat) : entries (value depth) bound cs = none := by
  cases bound with
  | zero => rfl
  | succ bound => rw [entries, h]; rfl

theorem reads_object {depth : Nat} {texts : List (String × String)} {found : List (String × Data)}
    (h : List.Forall₂ (ReadsEntry depth) texts found)
    (hkeys : (found.map Prod.fst).Nodup) :
    Reads (depth + 1) (object texts) (.table found) := by
  intro cs
  have hsplit : (object texts).toList ++ cs =
      '\x7b' :: ((", ".intercalate (texts.map entryText)).toList ++ '\x7d' :: cs) := by
    simp [object]
    rfl
  rw [hsplit, skipBlanks_cons (by decide), value]
  cases h with
  | nil => rfl
  | @cons text data texts found hfirst hrest =>
      have hall : List.Forall₂ (ReadsEntry depth) (text :: texts) (data :: found) :=
        .cons hfirst hrest
      let more := (", ".intercalate ((text :: texts).map entryText)).toList ++ '\x7d' :: cs
      have hbound : (text :: texts).length ≤ more.length := by
        have hlength := length_le_intercalate ((text :: texts).map entryText)
        simp only [more, List.length_map, List.length_append, List.length_cons] at hlength ⊢
        omega
      have hentries := entries_of_reads hall hkeys (by simp) more.length hbound cs
      split
      · next rest hclosed => cases (entries_eq_none hclosed depth _).symm.trans hentries
      · rw [hentries]
        rfl

end Json

/-! ## Offers -/

namespace Data

theorem texts?_list_map_text (names : List String) :
    Data.texts? (.list (names.map .text)) = some names := by
  induction names with
  | nil => rfl
  | cons name rest ih =>
      simp only [texts?, List.map_cons, List.mapM_cons, text?] at ih ⊢
      rw [ih]
      rfl

end Data

namespace Offer

/-- An offer as the data of a JSON object. -/
def toData (offer : Offer) : Data :=
  .table [("prefix", .text offer.common), ("matches", .list (offer.names.map .text))]

theorem ofData?_toData (offer : Offer) : ofData? offer.toData = some offer := by
  have hmatches : [("prefix", Data.text offer.common),
      ("matches", .list (offer.names.map .text))].lookup "matches" =
        some (.list (offer.names.map .text)) := rfl
  simp only [ofData?, toData, hmatches, Option.bind_eq_bind, Option.bind_some,
    Data.texts?_list_map_text]
  rfl

theorem reads_toJson (depth : Nat) (offer : Offer) :
    Json.Reads (depth + 3) offer.toJson offer.toData := by
  have hnames : List.Forall₂ (Json.Reads (depth + 1)) (offer.names.map Json.string)
      (offer.names.map .text) := by
    rw [List.forall₂_map_left_iff, List.forall₂_map_right_iff]
    exact List.forall₂_same.mpr fun name _ => Json.reads_string depth name
  refine Json.reads_object (.cons ⟨rfl, ?_⟩ (.cons ⟨rfl, ?_⟩ .nil)) (by simp)
  · exact Json.reads_string (depth + 1) offer.common
  · exact Json.reads_array hnames

/-- What is printed of an offer as JSON is one value, and describes that offer. -/
theorem ofJson?_printed (offer : Offer) : ofJson? (offer.toJson ++ "\n") = some offer := by
  obtain ⟨depth, hdepth⟩ : ∃ depth, (offer.toJson ++ "\n").length = depth + 3 := by
    have hcolon : ": ".length = 2 := rfl
    refine ⟨(offer.toJson ++ "\n").length - 3, ?_⟩
    simp [toJson, Json.object]
    omega
  have hread := reads_toJson depth offer "\n".toList
  have hrest : (Json.skipBlanks "\n".toList).isEmpty = true := by decide
  simp only [ofJson?, Json.read?, hdepth, String.toList_append, hread, Option.bind_eq_bind,
    Option.bind_some, hrest, if_true]
  exact ofData?_toData offer

end Offer

end TabCompletion
