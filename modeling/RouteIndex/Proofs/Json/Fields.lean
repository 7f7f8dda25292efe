/-
  Laws of reading records out of JSON values.

  1. **Values** — a number is read back if it fits its type, and what is read always does; a list is
     read back if its items are (`items?_map`).
  2. **Fields** — an object is asked for its fields by name.  So the order of the fields does not
     matter (`fields?_perm`), and neither does a field that nobody asks for (`fields?_cons`).
  3. **Forms** — `IsOpen` says both of a reader of records, `IsLossless` what a reader and a printer
     of the same values owe to each other.  The latter follows as soon as each value is read back and
     only values in range are ever read (`IsLossless.of_reads_back`).
-/

import Mathlib.Algebra.Group.Nat.Defs
import RouteIndex.Json.Fields

namespace RouteIndex

namespace Json

variable {α : Type}

/-! ## Values -/

/-- An integer in a range is read as it is. -/
theorem intWithin?_int {low high i : Int} (hlow : low ≤ i) (hhigh : i ≤ high) :
    intWithin? low high (.int i) = some i := by
  have hrange : (decide (low ≤ i) && decide (i ≤ high)) = true := by
    rw [Bool.and_eq_true, decide_eq_true_eq, decide_eq_true_eq]
    exact ⟨hlow, hhigh⟩
  rw [intWithin?, if_pos hrange]

/-- A number that fits its type is read back. -/
theorem natBelow?_nat {bits n : Nat} (h : n < 2 ^ bits) : natBelow? bits (.nat n) = some n := by
  have hlow : (0 : Int) ≤ n := Int.natCast_nonneg n
  have hhigh : (n : Int) ≤ (Nat.pow 2 bits - 1 : Nat) := by
    have hpow : Nat.pow 2 bits = 2 ^ bits := rfl
    omega
  rw [natBelow?, nat, intWithin?_int hlow hhigh, Option.map_some, Int.toNat_natCast]

/-- What is read always fits its type, so a position that was accepted needs no bound of its own. -/
theorem lt_of_natBelow? {bits n : Nat} {v : Json} (h : natBelow? bits v = some n) : n < 2 ^ bits := by
  obtain ⟨i, hi, rfl⟩ := Option.map_eq_some_iff.mp h
  unfold intWithin? at hi
  split at hi
  · rename_i j
    split at hi
    · -- The range is one of integers, and its upper end is the last number of so many bits.
      rename_i hrange
      obtain rfl := Option.some.inj hi
      rw [Bool.and_eq_true, decide_eq_true_eq, decide_eq_true_eq] at hrange
      have hpow : Nat.pow 2 bits = 2 ^ bits := rfl
      have hpos : 0 < 2 ^ bits := Nat.two_pow_pos bits
      omega
    · nomatch hi
  · nomatch hi

/-- The items of a list are read one by one, in their order; it is enough that those in the list can
be read. -/
theorem items?_map_of_mem {β : Type} {write : β → Json} {read? : Json → Option α} {f : β → α}
    {bs : List β} (h : ∀ b ∈ bs, read? (write b) = some (f b)) :
    items? read? (.arr (bs.map write)) = some (bs.map f) := by
  show (bs.map write).mapM read? = some (bs.map f)
  induction bs with
  | nil => rfl
  | cons b bs ih =>
    obtain ⟨hb, hbs⟩ := List.forall_mem_cons.mp h
    rw [List.map_cons, List.mapM_cons, hb, ih hbs]
    rfl

/-- A list is read back, if every item is. -/
theorem items?_map {write : α → Json} {read? : Json → Option α} (h : ∀ a, read? (write a) = some a)
    (as : List α) : items? read? (.arr (as.map write)) = some as := by
  rw [items?_map_of_mem (f := id) fun a _ => h a, List.map_id]

/-! ## Fields -/

variable {fields others : List (Option String × Json)}

/-- A field is found wherever it stands.  One that is given twice cannot be read, in any order. -/
theorem field?_perm (h : fields.Perm others) (name : String) :
    field? fields name = field? others name := by
  have hfilter := h.filter fun f => f.1 = some name
  unfold field?
  generalize fields.filter _ = given at hfilter ⊢
  generalize others.filter _ = given' at hfilter ⊢
  match given, hfilter with
  | [], hfilter => rw [List.nil_perm.mp hfilter]
  | [f], hfilter => rw [List.singleton_perm.mp hfilter]
  | f :: g :: rest, hfilter =>
    -- there are as many fields with the name on the other side, so the name is given twice there too
    have hlength := hfilter.length_eq
    match given', hlength with
    | f' :: g' :: rest', _ => rfl

/-- A field with another name does not matter. -/
theorem field?_cons {key : Option String} {name : String} (h : key ≠ some name) (v : Json) :
    field? ((key, v) :: fields) name = field? fields name := by
  rw [field?, List.filter_cons_of_neg (by rwa [decide_eq_true_eq])]
  rfl

/-- **The order of the fields does not matter.** -/
theorem fields?_perm (h : fields.Perm others) (names : List String) :
    (obj fields).fields? names = (obj others).fields? names := by
  have hfield : field? fields = field? others := funext (field?_perm h)
  rw [fields?, fields?, hfield, h.all_eq]

/-- **A field that is not asked for does not matter**, if its key denotes a text.  A key that
denotes none makes the whole object unreadable. -/
theorem fields?_cons {key : String} {names : List String} (h : key ∉ names) (v : Json) :
    (obj ((some key, v) :: fields)).fields? names = (obj fields).fields? names := by
  have hfield : names.mapM (field? ((some key, v) :: fields)) = names.mapM (field? fields) := by
    induction names with
    | nil => rfl
    | cons name names ih =>
      rw [List.mem_cons, not_or] at h
      obtain ⟨hname, hnames⟩ := h
      rw [List.mapM_cons, List.mapM_cons, ih hnames, field?_cons (fun h => hname (Option.some.inj h))]
  rw [fields?, fields?, hfield]
  rfl

end Json

/-! ## Forms -/

/-- A reader of records takes the fields of an object in any order, and skips the fields that it does
not know, as long as it can keep their values. -/
structure IsOpen {α : Type} (names : List String) (keeps : Json → Bool)
    (ofJson? : Json → Option α) : Prop where
  any_order : ∀ fields others, fields.Perm others → ofJson? (.obj fields) = ofJson? (.obj others)
  unknown : ∀ fields key v, key ∉ names → keeps v = true →
    ofJson? (.obj ((some key, v) :: fields)) = ofJson? (.obj fields)

/-- Nothing is lost on the way from a value to its text, nor on the way back. -/
structure IsLossless {α : Type} (InRange : α → Prop) (text : α → String)
    (ofText? : String → Option α) : Prop where
  reads_back : ∀ a, InRange a → ofText? (text a) = some a
  distinct : ∀ a b, InRange a → InRange b → text a = text b → a = b
  /-- However a value is given, its own text stands for it from then on. -/
  settles : ∀ s a, ofText? s = some a →
    InRange a ∧ ofText? (text a) = some a ∧ (ofText? (text a)).map text = some (text a)

/-- Nothing is lost if the values in range are read back and only these are read. -/
theorem IsLossless.of_reads_back {α : Type} {InRange : α → Prop} {text : α → String}
    {ofText? : String → Option α} (hback : ∀ a, InRange a → ofText? (text a) = some a)
    (hrange : ∀ s a, ofText? s = some a → InRange a) : IsLossless InRange text ofText? where
  reads_back := hback
  distinct a b ha hb h := by
    have hread := hback a ha
    rw [h, hback b hb] at hread
    exact (Option.some.inj hread).symm
  settles s a h := by
    have hread := hback a (hrange s a h)
    exact ⟨hrange s a h, hread, congrArg (Option.map text) hread⟩

end RouteIndex
