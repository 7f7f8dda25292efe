/-
  Retry policies, written as JSON text and read again.

  The strategy decides how the other fields of a policy are read, so a reader keeps all of them until
  it has found the strategy, wherever that stands.  Keeping does no harm to a policy that was written:
  its texts are always kept, and so is a count of thirty-two bits (`RetryPolicy.fits_toJson`).  Then
  the reader finds each field once, and gives the policy back (`RetryPolicy.ofJson?_toJson`).
-/

import RouteIndex.Proofs.Json.Fields
import RouteIndex.Proofs.Json.Kept
import RouteIndex.Proofs.Json.Text
import RouteIndex.RetryPolicy

namespace RouteIndex.RetryPolicy

/-! ## Counts -/

/-- A count is a number of thirty-two bits, and so it is read back. -/
theorem count?_countJson (count : Int32) : count? (countJson count) = some count := by
  rw [countJson, count?, Json.intWithin?_int count.minValue_le_toInt count.toInt_le,
    Option.map_some, Int32.ofInt_toInt]

/-- A count is kept, for it is far below sixty-four bits. -/
theorem fits_countJson (count : Int32) (levels : Nat) : (countJson count).fits levels = true := by
  have hlow : -2147483648 ≤ count.toInt := count.minValue_le_toInt
  have hhigh : count.toInt ≤ 2147483647 := count.toInt_le
  exact Json.fits_int (by omega) levels

/-! ## Policies -/

/-- The only number of a policy is its count. -/
theorem isIntegral_toJson (p : RetryPolicy) : p.toJson.isIntegral = true := by
  cases p <;> rfl

/-- A policy that was written is kept, wherever it may nest at all. -/
theorem fits_toJson (p : RetryPolicy) (levels : Nat) : p.toJson.fits (levels + 1) = true := by
  cases p with
  | none =>
    refine Json.fits_object fun f hf => ?_
    rw [List.mem_singleton.mp hf]
    exact Json.fits_text _ levels
  | fixedDelay count delay =>
    refine Json.fits_object fun f hf => ?_
    simp only [List.mem_cons, List.not_mem_nil, or_false] at hf
    rcases hf with rfl | rfl | rfl
    · exact Json.fits_text _ levels
    · exact fits_countJson count levels
    · exact Json.fits_text _ levels
  | exponentialBackoff count low high =>
    refine Json.fits_object fun f hf => ?_
    simp only [List.mem_cons, List.not_mem_nil, or_false] at hf
    rcases hf with rfl | rfl | rfl | rfl
    · exact Json.fits_text _ levels
    · exact fits_countJson count levels
    · exact Json.fits_text _ levels
    · exact Json.fits_text _ levels

/-! ## Reading -/

/-- The fields of a policy whose strategy has been found. -/
def ofTagged? (fields : List (Option String × Json)) : Option Json → Option RetryPolicy
  | some (.str (some strategy)) =>
    ofFields? strategy (.obj (fields.filter (·.1 ≠ some "strategy")))
  | _ => failure

/-- An object that is kept is read by its strategy. -/
theorem ofJson?_obj (levels : Nat) (fields : List (Option String × Json)) :
    ofJson? levels (.obj fields) =
      if (Json.obj fields).fits levels then
        (Json.field? fields "strategy").bind (ofTagged? fields)
      else failure := by
  unfold ofJson?
  by_cases hfits : (Json.obj fields).fits levels = true
  · have hguard : guard ((Json.obj fields).fits levels = true) = Option.some () := if_pos hfits
    rw [hguard, if_pos hfits, Option.bind_eq_bind, Option.bind_some]
    rfl
  · have hguard : guard ((Json.obj fields).fits levels = true) = @Option.none Unit := if_neg hfits
    rw [hguard, if_neg hfits]
    rfl

/-- A policy is read back from its JSON.  Its strategy is found first, and then the fields of that
strategy; the cases are the three of them. -/
theorem ofJson?_toJson (p : RetryPolicy) (levels : Nat) :
    ofJson? (levels + 1) p.toJson = some p := by
  have hfits := fits_toJson p levels
  cases p with
  | none => exact (ofJson?_obj _ _).trans (if_pos hfits)
  | fixedDelay count delay =>
    refine ((ofJson?_obj _ _).trans (if_pos hfits)).trans ?_
    show (count? (countJson count)).bind (fun count => some (RetryPolicy.fixedDelay count delay)) = _
    rw [count?_countJson]
    rfl
  | exponentialBackoff count low high =>
    refine ((ofJson?_obj _ _).trans (if_pos hfits)).trans ?_
    show (count? (countJson count)).bind
      (fun count => some (RetryPolicy.exponentialBackoff count low high)) = _
    rw [count?_countJson]
    rfl

/-- **A policy is read back from its text.** -/
theorem ofText?_text (p : RetryPolicy) : ofText? p.text = some p := by
  rw [ofText?, text, Json.read?_compact p.isIntegral_toJson]
  exact ofJson?_toJson p _

/-! ## Forms -/

/-- The names that the fields of a policy may have. -/
def fieldNames : List String :=
  ["strategy", "maxRetryCount", "delayInterval", "minimumInterval", "maximumInterval"]

/-- Objects that agree on every field of a policy hold the same policy. -/
theorem ofFields?_congr {fields others : List (Option String × Json)}
    (h : ∀ names, names ⊆ fieldNames → (Json.obj fields).fields? names = (Json.obj others).fields? names)
    (strategy : String) : ofFields? strategy (.obj fields) = ofFields? strategy (.obj others) := by
  have hfixed := h ["maxRetryCount", "delayInterval"] (by decide)
  have hexponential := h ["maxRetryCount", "minimumInterval", "maximumInterval"] (by decide)
  unfold ofFields?
  split
  · rfl
  · rw [hfixed]
  · rw [hexponential]
  · rfl

/-- **The strategy may stand anywhere**, and other fields may stand beside those of the policy, if
they can be kept: one that cannot makes the whole object unreadable before the strategy is known. -/
theorem isOpen (levels : Nat) : IsOpen fieldNames (Json.fits levels) (ofJson? (levels + 1)) where
  any_order fields others h := by
    have hfits : (Json.obj fields).fits (levels + 1) = (Json.obj others).fits (levels + 1) := by
      rw [Json.fits, Json.fits, Json.fieldsFit_eq_all, Json.fieldsFit_eq_all, h.all_eq]
    -- The tag may stand anywhere, so it is taken out first and the other fields are looked up.
    have htagged : ofTagged? fields = ofTagged? others := by
      funext given
      unfold ofTagged?
      split
      · exact ofFields?_congr (fun names _ => Json.fields?_perm (h.filter _) names) _
      · rfl
    rw [ofJson?_obj, ofJson?_obj, hfits, htagged, Json.field?_perm h]
  unknown fields key v hkey hkept := by
    have hstrategy : some key ≠ some "strategy" := by
      intro heq
      rw [Option.some.inj heq] at hkey
      exact hkey List.mem_cons_self
    have hfits : (Json.obj ((some key, v) :: fields)).fits (levels + 1) =
        (Json.obj fields).fits (levels + 1) := by
      have hfields : Json.fieldsFit levels ((some key, v) :: fields) = Json.fieldsFit levels fields := by
        rw [Json.fieldsFit, hkept]
        rfl
      rw [Json.fits, Json.fits]
      exact congrArg _ hfields
    -- A key that is not the tag stays among the fields and is then asked for by nobody.
    have hfilter : ((some key, v) :: fields).filter (·.1 ≠ some "strategy") =
        (some key, v) :: fields.filter (·.1 ≠ some "strategy") :=
      List.filter_cons_of_pos (decide_eq_true hstrategy)
    have htagged : ofTagged? ((some key, v) :: fields) = ofTagged? fields := by
      funext given
      unfold ofTagged?
      split
      · rw [hfilter]
        refine ofFields?_congr (fun names hnames => Json.fields?_cons (fun hmem => ?_) v) _
        exact hkey (hnames hmem)
      · rfl
    rw [ofJson?_obj, ofJson?_obj, hfits, htagged, Json.field?_cons hstrategy]

end RouteIndex.RetryPolicy
