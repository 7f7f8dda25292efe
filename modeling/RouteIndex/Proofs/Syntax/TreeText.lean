/-
  Syntax trees, written as JSON and read again.

  A tree is read back as it was, unless it is too high.  The two things that `Tree.ofText` looks at
  are settled one after the other:

  1. **How deep does the text nest?**  A node costs one object, and its children one array, so the
     JSON of a tree nests twice as deep as the tree is high (`Tree.depth_toJson`).  The guard
     therefore refuses exactly the trees with more than 256 nodes on a path.
  2. **What does the reader make of it?**  The JSON of a tree has no number but its version, so its
     text is read back as the same JSON (`Json.read?_write`), and that gives the tree again
     (`Tree.ofJson?_toJson`).

  **`Tree.ofText_of_written`** puts both together, for either layout.
-/

import RouteIndex.Proofs.Json.Fields
import RouteIndex.Proofs.Json.Nesting
import RouteIndex.Proofs.Json.Text
import RouteIndex.Syntax.Tree

namespace RouteIndex.Syntax

namespace Node

/-! ## Height -/

mutual

/-- The number of nodes on the longest path from a node down to a leaf. -/
def height : Node → Nat
  | ⟨_, _, children⟩ => heights children + 1

/-- The height of the highest node in a list. -/
def heights : List Node → Nat
  | [] => 0
  | n :: ns => max n.height (heights ns)

end

/-- A node counts itself, so no height is zero. -/
theorem height_pos (n : Node) : 0 < n.height := by
  obtain ⟨kind, text, children⟩ := n
  rw [height]
  exact Nat.succ_pos _

/-! ## The fields of a node -/

/-- The field of a text, if there is one. -/
def textFields : Option String → List (Option String × Json)
  | some s => [(some "text", .text s)]
  | none => []

/-- The field of the children, if there are any. -/
def childrenFields : List Node → List (Option String × Json)
  | [] => []
  | c :: cs => [(some "children", .arr (toJsons (c :: cs)))]

/-- The fields of a node: its kind always, its text and its children only where there are any. -/
theorem toJson_eq (kind : Kind) (text : Option String) (children : List Node) :
    toJson ⟨kind, text, children⟩ =
      .obj ((some "kind", .text kind.name) :: (textFields text ++ childrenFields children)) := by
  cases text with
  | none =>
    rw [toJson]
    cases children <;> rfl
  | some s =>
    rw [toJson]
    cases children <;> rfl

/-! ## How deep a node nests -/

/-- The text of a node does not nest. -/
theorem depthOfFields_textFields (text : Option String) :
    Json.depthOfFields (textFields text) = 0 := by
  cases text with
  | none => rfl
  | some s => rfl

mutual

/-- The JSON of a node nests one level less than twice its height: its own object at each node, and
the array of its children at each node but the last.  By recursion on the node and its children. -/
theorem depth_toJson : ∀ (n : Node), n.toJson.depth = 2 * n.height - 1
  | ⟨kind, text, children⟩ => by
    have hchildren : Json.depthOfFields (childrenFields children) = 2 * heights children := by
      cases children with
      | nil => rfl
      | cons c cs =>
        have hitems := depthOfItems_toJsons (c :: cs)
        have hpos : 0 < heights (c :: cs) := by
          have hc := height_pos c
          rw [heights]
          omega
        rw [childrenFields, Json.depthOfFields, Json.depth, Json.depthOfFields]
        omega
    have hkind : (Json.text kind.name).depth = 0 := rfl
    rw [toJson_eq, Json.depth, Json.depthOfFields, Json.depthOfFields_append,
      depthOfFields_textFields, hkind, hchildren, height]
    omega

/-- `depth_toJson` for the deepest of some nodes. -/
theorem depthOfItems_toJsons : ∀ (ns : List Node),
    Json.depthOfItems (toJsons ns) = 2 * heights ns - 1
  | [] => rfl
  | n :: ns => by
    have hn := depth_toJson n
    have hns := depthOfItems_toJsons ns
    rw [toJsons, Json.depthOfItems, heights]
    omega

end

/-! ## Numbers in a node -/

/-- Nor does it hold numbers. -/
theorem fieldsIntegral_textFields (text : Option String) :
    Json.fieldsIntegral (textFields text) = true := by
  cases text with
  | none => rfl
  | some s => rfl

mutual

/-- The JSON of a node has no number in it. -/
theorem isIntegral_toJson : ∀ (n : Node), n.toJson.isIntegral = true
  | ⟨kind, text, children⟩ => by
    have hchildren : Json.fieldsIntegral (childrenFields children) = true := by
      cases children with
      | nil => rfl
      | cons c cs =>
        rw [childrenFields, Json.fieldsIntegral, Json.isIntegral, itemsIntegral_toJsons (c :: cs)]
        rfl
    rw [toJson_eq, Json.isIntegral, Json.fieldsIntegral, Json.fieldsIntegral_append,
      fieldsIntegral_textFields, hchildren]
    rfl

/-- `isIntegral_toJson` for every node of a list. -/
theorem itemsIntegral_toJsons : ∀ (ns : List Node), Json.itemsIntegral (toJsons ns) = true
  | [] => rfl
  | n :: ns => by
    rw [toJsons, Json.itemsIntegral, isIntegral_toJson n, itemsIntegral_toJsons ns]
    rfl

end

/-! ## Reading a node -/

/-- A kind is read back from its name.  There are finitely many, and all of them are looked at. -/
theorem kind?_text (k : Kind) : kind? (.text k.name) = some k := by
  cases k <;> decide

/-- The field of a kind is taken if no kind has been read yet. -/
theorem addField?_kind (k : Kind) (d : Draft) (hd : d.kind = none) :
    addField? (some "kind", .text k.name) d = some { d with kind := some k } := by
  unfold addField?
  rw [if_pos rfl, hd, kind?_text]
  rfl

/-- The field of a text adds the text, and no field adds none.  The other fields may have been read
in front of it. -/
theorem draft?_textFields {rest : List (Option String × Json)} {d : Draft}
    (hrest : draft? rest = some d) (hd : d.text = none) (text : Option String) :
    draft? (textFields text ++ rest) = some { d with text := text.map some } := by
  cases text with
  | none =>
    show draft? rest = some { d with text := none }
    rw [hrest, ← hd]
  | some s =>
    show (draft? rest).bind (addField? (some "text", .text s)) = _
    rw [hrest, Option.bind_some]
    unfold addField?
    rw [if_neg (by decide), if_pos rfl, hd]
    rfl

mutual

/-- A node is read back from its JSON, by recursion on the node and its children. -/
theorem ofJson?_toJson : ∀ (n : Node), ofJson? n.toJson = some n
  | ⟨kind, text, children⟩ => by
    -- the reader adds the last field first
    have hchildren : ∃ d, draft? (childrenFields children) = some d ∧ d.kind = none ∧ d.text = none ∧
        d.children.getD [] = children := by
      cases children with
      | nil => exact ⟨{}, rfl, rfl, rfl, rfl⟩
      | cons c cs =>
        refine ⟨{ children := some (c :: cs) }, ?_, rfl, rfl, rfl⟩
        show addField? (some "children", .arr (toJsons (c :: cs))) {} = _
        unfold addField?
        rw [if_neg (by decide), if_neg (by decide), if_pos rfl]
        show (ofJsons? (toJsons (c :: cs))).map _ = _
        rw [ofJsons?_toJsons (c :: cs)]
        rfl
    obtain ⟨d, hd, hkind, htext, hgiven⟩ := hchildren
    rw [toJson_eq]
    show (draft? (_ :: (textFields text ++ childrenFields children))).bind Draft.node? = _
    rw [draft?, draft?_textFields hd htext, Option.bind_some,
      addField?_kind kind { d with text := text.map some } hkind, Option.bind_some]
    show some (⟨kind, (text.map some).getD none, d.children.getD []⟩ : Node) = _
    rw [hgiven]
    cases text with
    | none => rfl
    | some s => rfl

/-- Nodes are read back from their JSON, in their order. -/
theorem ofJsons?_toJsons : ∀ (ns : List Node), ofJsons? (toJsons ns) = some ns
  | [] => rfl
  | n :: ns => by
    rw [toJsons, ofJsons?, ofJson?_toJson n, ofJsons?_toJsons ns]
    rfl

end

end Node

namespace Tree

/-! ## The JSON of a tree -/

/-- The object of a tree adds one level to that of its root, which makes its depth twice its
height. -/
theorem depth_toJson (t : Tree) : t.toJson.depth = 2 * t.root.height := by
  have hroot := Node.depth_toJson t.root
  have hpos := t.root.height_pos
  have hdepth : t.toJson.depth = t.root.toJson.depth + 1 := by
    rw [toJson]
    cases t.path with
    | none => simp [Json.object, Json.nat, Json.depth, Json.depthOfFields]
    | some path => simp [Json.object, Json.nat, Json.text, Json.depth, Json.depthOfFields]
  omega

/-- The only number of a tree is its version. -/
theorem isIntegral_toJson (t : Tree) : t.toJson.isIntegral = true := by
  have hroot := Node.isIntegral_toJson t.root
  rw [toJson]
  cases t.path with
  | none => simp [Json.object, Json.nat, Json.isIntegral, Json.fieldsIntegral, hroot]
  | some path => simp [Json.object, Json.nat, Json.text, Json.isIntegral, Json.fieldsIntegral, hroot]

/-- A tree is read back from its JSON, with its version and its path. -/
theorem ofJson?_toJson (t : Tree) : ofJson? t.toJson = some t := by
  obtain ⟨version, path, root⟩ := t
  have hfields : (toJson ⟨version, path, root⟩).fields? ["version", "path", "root"] =
      some [some (.nat version.toNat), path.map Json.text, some root.toJson] := by
    cases path with
    | none => rfl
    | some path => rfl
  have hpath : Json.optional Json.text? (path.map Json.text) = some path := by
    cases path with
    | none => rfl
    | some path => rfl
  simp only [ofJson?, hfields, hpath, Json.required, Option.bind_eq_bind, Option.bind_some,
    Json.natBelow?_nat version.toNat_lt, Node.ofJson?_toJson, UInt32.ofNat_toNat]
  rfl

/-! ## The text of a tree -/

/-- What is read from a text of the tree's JSON: the height is looked at first, then the version.
The guard counts on the text, but on such a text it counts the depth of the value. -/
theorem ofText_of_read? {t : Tree} {s : String} (hread : Json.read? s = some t.toJson) :
    ofText s =
      if 257 ≤ t.root.height then .error .tooDeep
      else if t.version ≠ formatVersion then .error (.unsupportedVersion t.version)
      else .ok t := by
  -- Each level of the tree is two levels of the text, the node and its list of children.
  have hdeep : Json.nestsDeeper maxNesting s = true ↔ 257 ≤ t.root.height := by
    rw [Json.nestsDeeper_iff_of_read? hread, depth_toJson, maxNesting]
    omega
  have htree : (Json.read? s).bind ofJson? = some t := by
    rw [hread]
    exact ofJson?_toJson t
  rw [ofText, htree]
  by_cases hheight : 257 ≤ t.root.height
  · rw [if_pos (hdeep.mpr hheight), if_pos hheight]
  · rw [if_neg (fun h => hheight (hdeep.mp h)), if_neg hheight]
    by_cases hversion : t.version = formatVersion
    · rw [if_neg (fun h => h hversion)]
      exact if_pos hversion
    · rw [if_pos hversion]
      exact if_neg hversion

/-- A tree of the current version that is not too high is read from the line that is written for it. -/
theorem ofText_compactText {t : Tree} (hheight : t.root.height ≤ 256)
    (hversion : t.version = formatVersion) : ofText t.compactText = .ok t := by
  have hread : ofText t.compactText = _ := ofText_of_read? (Json.read?_compact (isIntegral_toJson t))
  rw [if_neg (Nat.not_le.mpr (Nat.lt_succ_of_le hheight)), if_neg fun h => h hversion] at hread
  exact hread

/-- **A tree that was written, on many lines or on one, is read back as it was**, up to a height of
256 nodes and in the current version. -/
theorem ofText_of_written (t : Tree) :
    (ofText t.text =
      if 257 ≤ t.root.height then .error .tooDeep
      else if t.version ≠ 1 then .error (.unsupportedVersion t.version)
      else .ok t) ∧
    (ofText t.compactText =
      if 257 ≤ t.root.height then .error .tooDeep
      else if t.version ≠ 1 then .error (.unsupportedVersion t.version)
      else .ok t) := by
  constructor
  · exact ofText_of_read? (Json.read?_pretty (isIntegral_toJson t))
  · exact ofText_of_read? (Json.read?_compact (isIntegral_toJson t))

end Tree

end RouteIndex.Syntax
