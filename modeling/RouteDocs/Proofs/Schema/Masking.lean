import RouteDocs.Proofs.Rule.Drawing
import RouteDocs.Proofs.Schema.Folding

/-!
The tree of fields carries their examples, and does not go by them: masking the examples of the
fields masks those of the tree.
-/

namespace RouteDocs.Schema.Node

mutual

def mask : Node → Node
  | ⟨name, type, details, children, items⟩ =>
      ⟨name, type, { details with sample := maskSample details.sample }, maskAll children,
        maskItems items⟩

def maskAll : List Node → List Node
  | [] => []
  | child :: rest => mask child :: maskAll rest

def maskItems : Option Node → Option Node
  | none => none
  | some items => some (mask items)

end

theorem maskAll_eq_map (children : List Node) : maskAll children = children.map mask := by
  induction children with
  | nil => rfl
  | cons child rest induction => rw [maskAll, induction, List.map_cons]

theorem maskItems_eq_map (items : Option Node) : maskItems items = items.map mask := by
  cases items <;> rfl

theorem mask_eq (node : Node) :
    node.mask =
      { node with
        details := { node.details with sample := maskSample node.details.sample }
        children := node.children.map mask
        items := node.items.map mask } := by
  obtain ⟨name, type, details, children, items⟩ := node
  rw [mask, maskAll_eq_map, maskItems_eq_map]

@[simp] theorem mask_name (node : Node) : node.mask.name = node.name := by rw [mask_eq]

@[simp] theorem mask_type (node : Node) : node.mask.type = node.type := by rw [mask_eq]

@[simp] theorem mask_children (node : Node) : node.mask.children = node.children.map mask := by
  rw [mask_eq]

@[simp] theorem mask_items (node : Node) : node.mask.items = node.items.map mask := by rw [mask_eq]

theorem mask_ofField (f : Field) : (ofField f).mask = ofField f.mask := by
  rw [mask_eq]
  rfl

theorem mask_rename (name : Option String) (node : Node) :
    (node.rename name).mask = node.mask.rename name := by
  rw [mask_eq, mask_eq node]
  rfl

theorem mask_retype (type : Option FieldType) (node : Node) :
    ({ node with type } : Node).mask = { node.mask with type } := by
  rw [mask_eq, mask_eq node]

theorem mask_named (name : Option String) : ({ name } : Node).mask = { name } := by
  rw [mask_eq]
  rfl

/-! Places in the tree. -/

theorem at?_mask (segment : String) (node : Node) :
    node.mask.at? segment = (node.at? segment).map mask := by
  rw [at?, at?]
  split
  · exact mask_items node
  · rw [child?, child?, mask_children, List.find?_map]
    have same : (fun child : Node => child.name == some segment) ∘ mask =
        fun child => child.name == some segment := by
      funext child
      rw [Function.comp_apply, mask_name]
    rw [same]

theorem mask_changeNamed (name : String) {change other : Node → Node}
    (covers : ∀ node, (change node).mask = other node.mask) (children : List Node) :
    (changeNamed name change children).map mask = changeNamed name other (children.map mask) := by
  induction children with
  | nil =>
      rw [changeNamed, List.map_singleton, covers, mask_named]
      rfl
  | cons child rest induction =>
      rw [changeNamed, List.map_cons, changeNamed, mask_name]
      split
      · rw [List.map_cons, covers]
      · rw [List.map_cons, induction]

theorem mask_change (segment : String) {change other : Node → Node}
    (covers : ∀ node, (change node).mask = other node.mask) (node : Node) :
    (node.change segment change).mask = node.mask.change segment other := by
  rw [Node.change, Node.change]
  split
  · rw [mask_eq, mask_eq node]
    cases node.items with
    | none =>
        simp only [Option.getD_none, Option.map_some, Option.map_none, covers]
        rw [mask_named]
    | some items => simp only [Option.getD_some, Option.map_some, covers]
  · rw [mask_eq, mask_eq node]
    simp only [mask_changeNamed segment covers]

theorem mask_adopt (node existing : Node) :
    (node.adopt existing).mask = node.mask.adopt existing.mask := by
  rw [adopt, adopt, mask_eq, mask_eq node, mask_eq existing]
  simp only [List.isEmpty_map, Option.map_or]
  split <;> rfl

theorem mask_settle (segment : String) (node : Node) (existing : Option Node) :
    (settle segment node existing).mask = settle segment node.mask (existing.map mask) := by
  cases existing with
  | none => exact mask_rename _ node
  | some existing =>
      show ((node.rename _).adopt existing).mask = (node.mask.rename _).adopt existing.mask
      rw [mask_adopt, mask_rename]

theorem mask_place (parent : Node) (segment : String) (node : Node) :
    (parent.place segment node).mask = parent.mask.place segment node.mask := by
  rw [place_eq_change, place_eq_change, at?_mask, ← mask_settle]
  let placed := settle segment node (parent.at? segment)
  exact @mask_change segment (fun _ => placed) (fun _ => placed.mask) (fun _ => rfl) parent

theorem mask_insert (leaf : Node) (path : List String) (root : Node) :
    (insert leaf path root).mask = insert leaf.mask path root.mask := by
  induction path generalizing root with
  | nil => rfl
  | cons segment rest induction =>
      cases rest with
      | nil => exact mask_place root segment leaf
      | cons next rest =>
          rw [insert, insert]
          refine mask_change segment (fun node => ?_) root
          rw [induction, holding, holding, mask_retype, mask_type]

theorem mask_insertField (root : Node) (f : Field) :
    (insertField root f).mask = insertField root.mask f.mask := by
  unfold insertField
  rw [mask_insert, mask_ofField]
  rfl

theorem mask_foldl (fields : List Field) (root : Node) :
    (fields.foldl insertField root).mask = (fields.map Field.mask).foldl insertField root.mask := by
  induction fields generalizing root with
  | nil => rfl
  | cons f rest induction =>
      rw [List.foldl_cons, induction, mask_insertField]
      rfl

mutual

theorem mask_fillTypes (default : FieldType) : (node : Node) →
    (fillTypes default node).mask = fillTypes default node.mask
  | ⟨name, type, details, children, items⟩ => by
      cases type with
      | none =>
          rw [fillTypes, mask, mask, fillTypes, mask_fillTypesAll default children,
            mask_fillTypesItems default items, maskAll_eq_map, maskItems_eq_map, List.isEmpty_map,
            Option.isSome_map]
      | some type =>
          rw [fillTypes, mask, mask, fillTypes, mask_fillTypesAll default children,
            mask_fillTypesItems default items]

theorem mask_fillTypesAll (default : FieldType) : (children : List Node) →
    maskAll (fillTypesAll default children) = fillTypesAll default (maskAll children)
  | [] => rfl
  | child :: rest => by
      rw [fillTypesAll, maskAll, maskAll, fillTypesAll, mask_fillTypes default child,
        mask_fillTypesAll default rest]

theorem mask_fillTypesItems (default : FieldType) : (items : Option Node) →
    maskItems (fillTypesItems default items) = fillTypesItems default (maskItems items)
  | none => rfl
  | some items => by
      rw [fillTypesItems, maskItems, maskItems, fillTypesItems, mask_fillTypes default items]

end

/-- A body shows the examples of its fields as they are. -/
theorem mask_ofFields (fields : List Field) (default : FieldType) :
    (ofFields fields default).mask = ofFields (fields.map Field.mask) default := by
  unfold ofFields
  rw [mask_fillTypes, mask_foldl]
  congr 2

end RouteDocs.Schema.Node
