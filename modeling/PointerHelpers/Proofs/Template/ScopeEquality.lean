import PointerHelpers.Proofs.Template.RelatedRenderings

namespace PointerHelpers.Template

namespace Scope

theorem mem_names_iff (name : String) : (scope : Scope) →
    (name ∈ scope.names ↔ (scope.get? name).isSome = true)
  | .empty => by simp [names, get?]
  | .text earlier bound _ | .list earlier bound _ => by
    rw [names, List.mem_cons, mem_names_iff name earlier, get?]
    by_cases h : bound = name
    · simp [h]
    · simp [h, Ne.symm h]

theorem allEquiv_iff (items others : List Scope) :
    allEquiv items others = true ↔ List.Forall₂ (· == ·) items others := by
  induction items generalizing others with
  | nil => cases others <;> simp [allEquiv]
  | cons item items ih =>
    cases others with
    | nil => simp [allEquiv]
    | cons other others =>
      rw [allEquiv, Bool.and_eq_true, ih, List.forall₂_cons]
      rfl

theorem forall_get?_iff {earlier : Scope} {bound : String} {value : Value} {hidden : List String}
    {holds : String → Value → Prop} :
    (∀ name ∉ hidden, ∀ found,
      (if bound = name then some value else earlier.get? name) = some found → holds name found) ↔
    (bound ∉ hidden → holds bound value) ∧
      ∀ name ∉ bound :: hidden, ∀ found, earlier.get? name = some found → holds name found := by
  constructor
  · intro h
    refine ⟨fun hb => h bound hb value (if_pos rfl), fun name hn found hf => ?_⟩
    rw [List.mem_cons, not_or] at hn
    exact h name hn.2 found (by rw [if_neg (Ne.symm hn.1), hf])
  · rintro ⟨hb, he⟩ name hn found hf
    by_cases hs : bound = name
    · subst hs
      rw [if_pos rfl, Option.some_inj] at hf
      exact hf ▸ hb hn
    · rw [if_neg hs] at hf
      exact he name (by simp [hn, Ne.symm hs]) found hf

theorem coveredBy_iff (other : Scope) : (hidden : List String) → (scope : Scope) →
    (coveredBy hidden scope other = true ↔ ∀ name ∉ hidden, ∀ value, scope.get? name = some value →
      ∃ value', other.get? name = some value' ∧ value.Matches (· == ·) value')
  | hidden, .empty => by simp [coveredBy, get?]
  | hidden, .text earlier bound content => by
    simp only [get?]
    rw [coveredBy, Bool.and_eq_true, coveredBy_iff other (bound :: hidden) earlier,
      forall_get?_iff, Bool.or_eq_true, List.contains_iff_mem]
    refine and_congr_left' (or_iff_not_imp_left.trans (imp_congr_right fun _ => ?_))
    simp only [Value.matches_text_iff, exists_eq_right]
    obtain _ | _ | _ := other.get? bound <;> simp [eq_comm (a := content)]
  | hidden, .list earlier bound items => by
    simp only [get?]
    rw [coveredBy, Bool.and_eq_true, coveredBy_iff other (bound :: hidden) earlier,
      forall_get?_iff, Bool.or_eq_true, List.contains_iff_mem]
    refine and_congr_left' (or_iff_not_imp_left.trans (imp_congr_right fun _ => ?_))
    obtain _ | _ | _ := other.get? bound <;> simp [Value.matches_list_iff, allEquiv_iff]

/-- Scopes are equal when every name is bound in both, to equal values, or in neither. -/
theorem beq_iff (scope other : Scope) :
    (scope == other) = true ↔
      ∀ name, Option.Rel (Value.Matches (· == ·)) (scope.get? name) (other.get? name) := by
  have hnames : other.names.all scope.names.contains = true ↔
      ∀ name, (other.get? name).isSome = true → (scope.get? name).isSome = true := by
    simp only [List.all_eq_true, List.contains_iff_mem, mem_names_iff]
  change (coveredBy [] scope other && other.names.all scope.names.contains) = true ↔ _
  rw [Bool.and_eq_true, coveredBy_iff, hnames]
  -- What the first scope binds is compared; of the second only the names are left to look at.
  constructor
  · rintro ⟨hbound, hothers⟩ name
    cases hs : scope.get? name with
    | none =>
      have ho : other.get? name = none := by
        simpa [hs] using mt (hothers name)
      rw [ho]
      exact .none
    | some value =>
      obtain ⟨value', ho, hm⟩ := hbound name (by simp) value hs
      rw [ho]
      exact .some hm
  · intro h
    refine ⟨fun name _ value hs => ?_, fun name ho => ?_⟩
    · obtain ⟨hn, -⟩ | ⟨found, value', hf, ho, hm⟩ := none_or_some_of_rel (h name)
      · cases hn.symm.trans hs
      · cases hf.symm.trans hs
        exact ⟨value', ho, hm⟩
    · obtain ⟨-, hn⟩ | ⟨found, -, hf, -⟩ := none_or_some_of_rel (h name)
      · simp [hn] at ho
      · simp [hf]

theorem sizeOf_lt_of_get? {name : String} {items : List Scope} {item : Scope} (hi : item ∈ items) :
    (scope : Scope) → scope.get? name = some (.list items) → sizeOf item < sizeOf scope
  | .empty, h => by simp [get?] at h
  | .text earlier bound content, h => by
    rw [get?] at h
    split at h
    · simp at h
    · have := sizeOf_lt_of_get? hi earlier h
      simp only [text.sizeOf_spec]
      omega
  | .list earlier bound bounds, h => by
    rw [get?] at h
    split at h
    · obtain rfl : bounds = items := by simpa using h
      have := List.sizeOf_lt_of_mem hi
      simp only [list.sizeOf_spec]
      omega
    · have := sizeOf_lt_of_get? hi earlier h
      simp only [list.sizeOf_spec]
      omega

/-- Induction on the nesting of a scope: what holds of it if it holds of all items that a look-up
finds in it, holds of every scope. -/
theorem item_induction {holds : Scope → Prop}
    (step : ∀ scope, (∀ name items, scope.get? name = some (.list items) →
      ∀ item ∈ items, holds item) → holds scope) (scope : Scope) : holds scope := by
  induction hs : sizeOf scope using Nat.strongRecOn generalizing scope with
  | ind size ih =>
    exact step scope fun name items hb item hi =>
      ih _ (hs ▸ sizeOf_lt_of_get? hi scope hb) item rfl

end Scope

end PointerHelpers.Template
