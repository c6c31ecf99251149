import TabCompletion.Proofs.Dialogue.Terms
import TabCompletion.Proofs.Offer.Candidates
import TabCompletion.Proofs.World.Extending

/-! # Elements of the arrays of a world

Once an opening parenthesis was typed, what goes on is no longer a variable but an element of an
array. The elements are compared without the array and the parentheses around them, and are offered
with them. -/

namespace TabCompletion

open Dialogue

namespace Lookup

variable {typed array element : String}

/-! ## The first parenthesis -/

theorem arrayElement?_append (h : '(' ∉ array.toList) (element : String) :
    arrayElement? (array ++ "(" ++ element) = some (array, element) := by
  have harray : ∀ c ∈ array.toList, decide (c ≠ '(') = true := by
    intro c hc
    simpa using fun heq : c = '(' => h (heq ▸ hc)
  have htyped : (array ++ "(" ++ element).toList = array.toList ++ '(' :: element.toList := by simp
  rw [arrayElement?, List.span_eq_takeWhile_dropWhile, htyped,
    List.takeWhile_append_of_pos harray, List.dropWhile_append_of_pos harray]
  simp

/-- What was typed can be split before its first parenthesis, and nowhere else so that none stands
before. -/
theorem exists_unique_array (h : '(' ∈ typed.toList) :
    ∃ array element : String, typed = array ++ "(" ++ element ∧ '(' ∉ array.toList ∧
      ∀ array' element' : String, typed = array' ++ "(" ++ element' → '(' ∉ array'.toList →
        array' = array ∧ element' = element := by
  obtain ⟨array, element, hsplit, harray⟩ := List.eq_append_cons_of_mem h
  have htyped : typed = String.ofList array ++ "(" ++ String.ofList element := by
    apply String.toList_injective
    simpa using hsplit
  have hfree : '(' ∉ (String.ofList array).toList := by simpa using harray
  refine ⟨_, _, htyped, hfree, ?_⟩
  intro array' element' htyped' hfree'
  have hsame := arrayElement?_append hfree' element'
  rw [← htyped', htyped, arrayElement?_append hfree] at hsame
  obtain ⟨rfl, rfl⟩ := Prod.mk.inj (Option.some.inj hsame)
  exact ⟨rfl, rfl⟩

end Lookup

namespace World

variable {w : World} {scope : Scope}

/-! ## Lookups -/

/-- The elements of an array; none if there is no such array. -/
def elementsOf (w : World) (array : String) : List String :=
  (w.arrays.lookup array).getD []

theorem run_lookup_elements (h : w.Hosts scope) (typed array element : String) :
    let asked := scope.looking .names ["::array", "names", array, Glob.startingWith element]
    let run := (Lookup.elements scope typed array element).run host w
    run.outcome = .ok (Lookup.offerElements typed array element
      ((w.elementsOf array).filter (Text.beginsWith element))) ∧
    run.events.filterMap Event.request? = [asked] := by
  have hreply := replies_elements h array (Glob.startingWith element)
  rw [Glob.filter_admits_startingWith] at hreply
  rw [Lookup.elements, run_query_bind hreply]
  exact ⟨rfl, rfl⟩

/-- An opening parenthesis is looked up by one query for the elements of the array before it that
begin with what follows it. They are offered in the order of their closed names. A single one is
closed in the stem as well; of several the stem stays open. -/
theorem elements_offered_closed (w : World) (scope : Scope) (hscope : w.Hosts scope)
    (typed : String) (htyped : '(' ∈ typed.toList) :
    ∃ array element : String, typed = array ++ "(" ++ element ∧ '(' ∉ array.toList ∧
      (∀ array' element' : String, typed = array' ++ "(" ++ element' → '(' ∉ array'.toList →
        array' = array ∧ element' = element) ∧
      let run := (Lookup.vars scope typed).run host w
      let found := (w.elementsOf array).filter (Text.beginsWith element)
      run.events.filterMap Event.request? =
        [scope.looking .names ["::array", "names", array, Glob.startingWith element]] ∧
      ∃ offer, run.outcome = .ok offer ∧
        offer.names.Perm (found.map (Lookup.elementName array)) ∧
        offer.names.Pairwise (· ≤ ·) ∧
        match found with
        | [] => offer = ⟨typed, []⟩
        | [only] => offer.common = Lookup.elementName array only
        | _ => ∃ stem, IsStem found stem ∧ offer.common = array ++ "(" ++ stem ∧
            typed.toList <+: offer.common.toList ∧ offer.Coherent := by
  obtain ⟨array, element, hsplit, harray, hunique⟩ := Lookup.exists_unique_array htyped
  have hvars : Lookup.vars scope typed = Lookup.elements scope typed array element := by
    rw [Lookup.vars, hsplit, Lookup.arrayElement?_append harray]
  obtain ⟨houtcome, hrequests⟩ := run_lookup_elements hscope typed array element
  rw [← hvars] at houtcome hrequests
  refine ⟨array, element, hsplit, harray, hunique, hrequests, _, houtcome, ?_⟩
  have hbegins : ∀ name ∈ (w.elementsOf array).filter (Text.beginsWith element),
      element.toList <+: name.toList := by
    intro name hname
    exact Text.beginsWith_iff.mp (List.mem_filter.mp hname).2
  generalize (w.elementsOf array).filter (Text.beginsWith element) = found at hbegins
  rw [Lookup.names_offerElements]
  refine ⟨ascending_perm _, pairwise_ascending _, ?_⟩
  rcases found with _ | ⟨first, _ | ⟨second, rest⟩⟩
  · rfl
  · rfl
  · have hstem := isStem_sharedStem_of_all (List.cons_ne_nil first _) hbegins
    have hcommon : (Lookup.offerElements typed array element (first :: second :: rest)).common =
        array ++ "(" ++ sharedStem (first :: second :: rest) element := rfl
    refine ⟨_, hstem, hcommon, ?_, ?_⟩
    · rw [hcommon, hsplit]
      simpa using typed_prefix_sharedStem (first :: second :: rest) element
    · intro name hname
      obtain ⟨only, honly, rfl⟩ := Lookup.mem_offerElements hname
      rw [hcommon]
      exact Lookup.elementName_extends (by simp) (hstem.begins only honly)

/-- A world with an array whose elements go on after `k` with characters below and above the
closing parenthesis. -/
def arrayed : World where
  arrays := [("A", ["k(1)", "k", "j", "k!", "k"])]

theorem elements_offered_arrayed :
    arrayed.Hosts .main ∧ '(' ∈ "A(k".toList ∧
      ∃ offer, ((Lookup.vars .main "A(k").run host arrayed).outcome = .ok offer ∧
        offer.names.Perm ["A(k(1))", "A(k)", "A(k!)", "A(k)"] ∧ offer.names.Pairwise (· ≤ ·) ∧
        ∃ stem, IsStem ["k(1)", "k", "k!", "k"] stem ∧ offer.common = "A(" ++ stem ∧
          offer.Coherent := by
  have hmain : arrayed.Hosts .main := by decide
  have hopen : '(' ∈ "A(k".toList := by decide
  obtain ⟨array, element, -, -, hunique, -, offer, houtcome, hperm, hsorted, hstem⟩ :=
    elements_offered_closed arrayed .main hmain "A(k" hopen
  obtain ⟨rfl, rfl⟩ := hunique "A" "k" rfl (by decide)
  have hfound : (arrayed.elementsOf "A").filter (Text.beginsWith "k") =
      ["k(1)", "k", "k!", "k"] := by decide
  rw [hfound] at hperm hstem
  obtain ⟨stem, hshared, hcommon, -, hcoherent⟩ := hstem
  exact ⟨hmain, hopen, offer, houtcome, hperm, hsorted, stem, hshared, hcommon, hcoherent⟩

end World

end TabCompletion
