import AdaptiveAutosar.Arxml.Reader

/-! # Paths and edits

A reader goes down a path of names, always to the first child of that name. An edit of the first element of a
name in document order is seen through a path to that name exactly when the path comes by that element.
-/

namespace AdaptiveAutosar.Arxml
open Foundations AdaptiveAutosar.Per AdaptiveAutosar.Ucm
set_option autoImplicit false

/-- The nodes at the end of a path. -/
def childrenAt : List Bytes → List XmlNode → List XmlNode
  | [], nodes => nodes
  | step :: path, nodes =>
    match nodes.find? (XmlNode.isNamed step) with
    | none => []
    | some node => childrenAt path node.childNodes

theorem child_some (name : Bytes) (node : XmlNode) :
    ArxmlNode.child name (some node) = node.childNodes.find? (XmlNode.isNamed name) := rfl

theorem foldl_child_none (path : List Bytes) :
    path.foldl (fun (root : ArxmlNode) child => root.child child) none = none := by
  induction path with
  | nil => rfl
  | cons step path ih => exact ih

theorem getNodes_eq (reader : ArxmlReader) (path : List Bytes) :
    reader.getNodes path = childrenAt path reader.mDocument := by
  have below (node : XmlNode) : (path.foldl (fun (root : ArxmlNode) child => root.child child) (some node)).elim []
      XmlNode.childNodes = childrenAt path node.childNodes := by
    induction path generalizing node with
    | nil => rfl
    | cons step path ih =>
      rw [List.foldl_cons, childrenAt, child_some]
      cases node.childNodes.find? (XmlNode.isNamed step) with
      | none => rw [foldl_child_none, Option.elim_none]
      | some child => exact ih child
  have found : reader.getNodes path = (reader.getRootNode path).elim [] XmlNode.childNodes := by
    unfold ArxmlReader.getNodes
    cases reader.getRootNode path with
    | none => rfl
    | some root => rfl
  exact found.trans (below reader.root)

/-- The first element of the name in document order is below the end of the path. -/
def onWay (target : Bytes) : List Bytes → List XmlNode → Bool
  | [], nodes =>
    !hasElement target (nodes.takeWhile fun node => !node.isNamed target) && nodes.any (XmlNode.isNamed target)
  | step :: path, nodes =>
    match nodes.find? (XmlNode.isNamed step) with
    | none => false
    | some node =>
      !hasElement target (nodes.takeWhile fun node => !node.isNamed step) && onWay target path node.childNodes

/-! ## Lists of nodes -/

section Lists
variable {target : Bytes} {edit : List XmlNode → List XmlNode}

theorem hasElement_append (before rest : List XmlNode) :
    hasElement target (before ++ rest) = (hasElement target before || hasElement target rest) := by
  induction before with
  | nil => rfl
  | cons node before ih => rw [List.cons_append, hasElement, ih, hasElement, Bool.or_assoc]

theorem editFirst_append_some {before before' : List XmlNode} (edited : editFirst target edit before = some before')
    (rest : List XmlNode) : editFirst target edit (before ++ rest) = some (before' ++ rest) := by
  induction before generalizing before' with
  | nil => cases edited
  | cons node before ih =>
    rw [editFirst] at edited
    rw [List.cons_append, editFirst]
    cases first : node.editFirst target edit with
    | some node' =>
      rw [first] at edited
      cases edited
      rfl
    | none =>
      rw [first] at edited
      obtain ⟨later, isLater, rfl⟩ := Option.map_eq_some_iff.mp edited
      dsimp only
      rw [ih isLater]
      rfl

theorem editFirst_append_none {before : List XmlNode} (unedited : editFirst target edit before = none)
    (rest : List XmlNode) :
    editFirst target edit (before ++ rest) = (editFirst target edit rest).map (before ++ ·) := by
  induction before with
  | nil => simp
  | cons node before ih =>
    rw [editFirst] at unedited
    rw [List.cons_append, editFirst]
    cases first : node.editFirst target edit with
    | some node' =>
      rw [first] at unedited
      cases unedited
    | none =>
      rw [first] at unedited
      dsimp only
      rw [ih (Option.map_eq_none_iff.mp unedited), Option.map_map]
      rfl

/-- An edit keeps the names. -/
theorem XmlNode.editFirst_isNamed {node node' : XmlNode} (edited : node.editFirst target edit = some node')
    (name : Bytes) : node'.isNamed name = node.isNamed name := by
  cases node with
  | text value => cases edited
  | element n attributes children =>
    unfold XmlNode.editFirst at edited
    split_ifs at edited
    · cases edited
      rfl
    · obtain ⟨children', -, rfl⟩ := Option.map_eq_some_iff.mp edited
      rfl

theorem editFirst_isNamed {nodes nodes' : List XmlNode} (edited : editFirst target edit nodes = some nodes')
    (name : Bytes) : nodes'.map (XmlNode.isNamed name) = nodes.map (XmlNode.isNamed name) := by
  induction nodes generalizing nodes' with
  | nil => cases edited
  | cons node rest ih =>
    rw [editFirst] at edited
    cases first : node.editFirst target edit with
    | some node' =>
      rw [first] at edited
      cases edited
      rw [List.map_cons, List.map_cons, XmlNode.editFirst_isNamed first]
    | none =>
      rw [first] at edited
      obtain ⟨rest', isRest, rfl⟩ := Option.map_eq_some_iff.mp edited
      rw [List.map_cons, List.map_cons, ih isRest]

theorem editFirst_none_iff (nodes : List XmlNode) :
    editFirst target edit nodes = none ↔ hasElement target nodes = false := by
  rw [← editFirst_isSome target edit nodes, Option.isSome_eq_false_iff, Option.isNone_iff_eq_none]

/-- The nodes ahead of the first one of a name, and those behind it. -/
theorem find?_cases (step : Bytes) (nodes : List XmlNode) :
    nodes.find? (XmlNode.isNamed step) = none ∨ ∃ before attributes children after,
      nodes = before ++ .element step attributes children :: after ∧
      (∀ node ∈ before, node.isNamed step = false) := by
  cases found : nodes.find? (XmlNode.isNamed step) with
  | none => exact .inl rfl
  | some node =>
    obtain ⟨named, before, after, split, others⟩ := List.find?_eq_some_iff_append.mp found
    cases node with
    | text value => cases named
    | element name attributes children =>
      cases eq_of_beq named
      refine .inr ⟨before, attributes, children, after, split, fun other there => ?_⟩
      simpa using others other there

variable {step : Bytes} {before : List XmlNode}

theorem find?_ahead (ahead : ∀ node ∈ before, node.isNamed step = false) (attributes : List (Bytes × Bytes))
    (children after : List XmlNode) :
    (before ++ .element step attributes children :: after).find? (XmlNode.isNamed step) =
      some (.element step attributes children) := by
  refine List.find?_eq_some_iff_append.mpr ⟨beq_self_eq_true step, before, after, rfl, fun other there => ?_⟩
  rw [ahead other there]
  rfl

theorem takeWhile_ahead (ahead : ∀ node ∈ before, node.isNamed step = false) (attributes : List (Bytes × Bytes))
    (children after : List XmlNode) :
    (before ++ .element step attributes children :: after).takeWhile (fun node => !node.isNamed step) = before := by
  have named : (XmlNode.element step attributes children).isNamed step = true := beq_self_eq_true step
  rw [List.takeWhile_append_of_pos fun other there => by rw [ahead other there]; rfl,
    List.takeWhile_cons_of_neg (by rw [named]; decide), List.append_nil]

theorem ahead_edited (ahead : ∀ node ∈ before, node.isNamed step = false) {before' : List XmlNode}
    (edited : editFirst target edit before = some before') : ∀ node ∈ before', node.isNamed step = false := by
  intro node there
  have named : node.isNamed step ∈ before'.map (XmlNode.isNamed step) := List.mem_map_of_mem there
  rw [editFirst_isNamed edited] at named
  obtain ⟨other, isOther, same⟩ := List.mem_map.mp named
  rw [← same, ahead other isOther]

end Lists

/-! ## An edit seen through a path -/

variable {target : Bytes} {edit : List XmlNode → List XmlNode} {nodes nodes' : List XmlNode}

theorem childrenAt_of_find?_none {step : Bytes} (missing : nodes.find? (XmlNode.isNamed step) = none)
    (path : List Bytes) : childrenAt (step :: path) nodes = [] := by
  rw [childrenAt, missing]

theorem find?_none_edited {step : Bytes} (missing : nodes.find? (XmlNode.isNamed step) = none)
    (edited : editFirst target edit nodes = some nodes') : nodes'.find? (XmlNode.isNamed step) = none := by
  refine List.find?_eq_none.mpr fun node there => ?_
  rw [ahead_edited (fun other isOther => ?_) edited node there]
  · decide
  · exact Bool.eq_false_iff.mpr (List.find?_eq_none.mp missing other isOther)

section Split
variable {step : Bytes} {before : List XmlNode} (ahead : ∀ node ∈ before, node.isNamed step = false)
  (attributes : List (Bytes × Bytes)) (children after : List XmlNode)
include ahead

theorem childrenAt_ahead (path : List Bytes) :
    childrenAt (step :: path) (before ++ .element step attributes children :: after) = childrenAt path children := by
  rw [childrenAt, find?_ahead ahead]
  rfl

theorem onWay_ahead (path : List Bytes) :
    onWay target (step :: path) (before ++ .element step attributes children :: after) =
      (!hasElement target before && onWay target path children) := by
  rw [onWay, find?_ahead ahead, takeWhile_ahead ahead]
  rfl

theorem onWay_last :
    onWay step [] (before ++ .element step attributes children :: after) = !hasElement step before := by
  rw [onWay, takeWhile_ahead ahead, List.any_eq_true.mpr, Bool.and_true]
  exact ⟨.element step attributes children, by simp, beq_self_eq_true step⟩

/-- An edit is ahead of the first element of a name, or is made at it, below it, or behind it. -/
theorem editFirst_split
    (edited : editFirst target edit (before ++ .element step attributes children :: after) = some nodes') :
    (hasElement target before = true ∧ ∃ before', (∀ node ∈ before', node.isNamed step = false) ∧
        nodes' = before' ++ .element step attributes children :: after) ∨
      hasElement target before = false ∧
        (step = target ∧ nodes' = before ++ .element step attributes (edit children) :: after ∨
          step ≠ target ∧
            ((∃ children', editFirst target edit children = some children' ∧
                nodes' = before ++ .element step attributes children' :: after) ∨
              hasElement target children = false ∧
                ∃ after', nodes' = before ++ .element step attributes children :: after')) := by
  cases first : editFirst target edit before with
  | some before' =>
    left
    rw [editFirst_append_some first] at edited
    cases edited
    refine ⟨?_, before', ahead_edited ahead first, rfl⟩
    rw [← editFirst_isSome target edit, first]
    rfl
  | none =>
    right
    refine ⟨editFirst_none_iff before |>.mp first, ?_⟩
    rw [editFirst_append_none first, editFirst, XmlNode.editFirst] at edited
    by_cases here : step = target
    · rw [if_pos here] at edited
      cases edited
      exact .inl ⟨here, rfl⟩
    · rw [if_neg here] at edited
      refine .inr ⟨here, ?_⟩
      cases below : editFirst target edit children with
      | some children' =>
        rw [below] at edited
        cases edited
        exact .inl ⟨children', rfl, rfl⟩
      | none =>
        rw [below] at edited
        obtain ⟨rest, isRest, rfl⟩ := Option.map_eq_some_iff.mp edited
        obtain ⟨after', -, rfl⟩ := Option.map_eq_some_iff.mp isRest
        exact .inr ⟨editFirst_none_iff children |>.mp below, after', rfl⟩

end Split

theorem hasElement_of_onWay {path : List Bytes} (way : onWay target path nodes = true) :
    hasElement target nodes = true := by
  induction path generalizing nodes with
  | nil =>
    rcases find?_cases target nodes with missing | ⟨before, attributes, children, after, rfl, ahead⟩
    · rw [onWay, Bool.and_eq_true, List.any_eq_true] at way
      obtain ⟨-, node, there, named⟩ := way
      exact absurd named (List.find?_eq_none.mp missing node there)
    · rw [hasElement_append, hasElement, XmlNode.hasElement]
      simp
  | cons step path ih =>
    rcases find?_cases step nodes with missing | ⟨before, attributes, children, after, rfl, ahead⟩
    · rw [onWay, missing] at way
      cases way
    · rw [onWay_ahead ahead] at way
      rw [hasElement_append, hasElement, XmlNode.hasElement, ih (Bool.and_eq_true_iff.mp way).2]
      simp

/-- An edit is seen at the end of a path to its target exactly on the way. -/
theorem childrenAt_edited {path : List Bytes} (other : target ∉ path)
    (edited : editFirst target edit nodes = some nodes') :
    childrenAt (path ++ [target]) nodes' =
      if onWay target path nodes then edit (childrenAt (path ++ [target]) nodes)
      else childrenAt (path ++ [target]) nodes := by
  induction path generalizing nodes nodes' with
  | nil =>
    rw [List.nil_append]
    rcases find?_cases target nodes with missing | ⟨before, attributes, children, after, rfl, ahead⟩
    · have astray : onWay target [] nodes = false := by
        rw [onWay, List.any_eq_false.mpr (List.find?_eq_none.mp missing), Bool.and_false]
      rw [astray, childrenAt_of_find?_none missing, childrenAt_of_find?_none (find?_none_edited missing edited)]
      rfl
    · rw [onWay_last ahead, childrenAt_ahead ahead]
      rcases editFirst_split ahead attributes children after edited with
        ⟨inside, before', ahead', rfl⟩ | ⟨outside, ⟨-, rfl⟩ | ⟨elsewhere, -⟩⟩
      · rw [inside, childrenAt_ahead ahead']
        rfl
      · rw [outside, childrenAt_ahead ahead]
        rfl
      · exact absurd rfl elsewhere
  | cons step path ih =>
    obtain ⟨differs, others⟩ := not_or.mp fun either => other (List.mem_cons.mpr either)
    rw [List.cons_append]
    rcases find?_cases step nodes with missing | ⟨before, attributes, children, after, rfl, ahead⟩
    · have astray : onWay target (step :: path) nodes = false := by rw [onWay, missing]
      rw [astray, childrenAt_of_find?_none missing, childrenAt_of_find?_none (find?_none_edited missing edited)]
      rfl
    · rw [onWay_ahead ahead, childrenAt_ahead ahead]
      rcases editFirst_split ahead attributes children after edited with
        ⟨inside, before', ahead', rfl⟩ | ⟨outside, ⟨same, -⟩ | ⟨-, ⟨children', below, rfl⟩ | ⟨nothing, after', rfl⟩⟩⟩
      · rw [inside, childrenAt_ahead ahead']
        rfl
      · exact absurd same.symm differs
      · rw [outside, childrenAt_ahead ahead, ih others below]
        rfl
      · have astray : onWay target path children = false := by
          refine Bool.eq_false_iff.mpr fun way => ?_
          rw [hasElement_of_onWay way] at nothing
          cases nothing
        rw [outside, astray, childrenAt_ahead ahead]
        rfl

/-- On the way to its target an edit is not seen at the end of a path to a sibling. -/
theorem childrenAt_sibling {path : List Bytes} {sibling : Bytes} (apart : sibling ≠ target)
    (other : target ∉ path) (way : onWay target path nodes = true)
    (edited : editFirst target edit nodes = some nodes') :
    childrenAt (path ++ [sibling]) nodes' = childrenAt (path ++ [sibling]) nodes := by
  induction path generalizing nodes nodes' with
  | nil =>
    rcases find?_cases target nodes with missing | ⟨before, attributes, children, after, rfl, ahead⟩
    · rw [onWay, List.any_eq_false.mpr (List.find?_eq_none.mp missing), Bool.and_false] at way
      cases way
    · rw [onWay_last ahead] at way
      have skips (children : List XmlNode) :
          childrenAt [sibling] (before ++ .element target attributes children :: after) =
            childrenAt [sibling] (before ++ after) := by
        have unnamed : ¬ (XmlNode.element target attributes children).isNamed sibling = true := by
          intro named
          exact apart (eq_of_beq named).symm
        rw [childrenAt, childrenAt, List.find?_append, List.find?_append, List.find?_cons_of_neg unnamed]
      rcases editFirst_split ahead attributes children after edited with
        ⟨inside, -⟩ | ⟨-, ⟨-, rfl⟩ | ⟨elsewhere, -⟩⟩
      · rw [inside] at way
        cases way
      · rw [List.nil_append, skips, skips]
      · exact absurd rfl elsewhere
  | cons step path ih =>
    obtain ⟨differs, others⟩ := not_or.mp fun either => other (List.mem_cons.mpr either)
    rw [List.cons_append]
    rcases find?_cases step nodes with missing | ⟨before, attributes, children, after, rfl, ahead⟩
    · rw [onWay, missing] at way
      cases way
    · rw [onWay_ahead ahead, Bool.and_eq_true] at way
      obtain ⟨clear, further⟩ := way
      rcases editFirst_split ahead attributes children after edited with
        ⟨inside, -⟩ | ⟨-, ⟨same, -⟩ | ⟨-, ⟨children', below, rfl⟩ | ⟨nothing, -⟩⟩⟩
      · rw [inside] at clear
        cases clear
      · exact absurd same.symm differs
      · rw [childrenAt_ahead ahead, childrenAt_ahead ahead, ih others further below]
      · rw [hasElement_of_onWay further] at nothing
        cases nothing

end AdaptiveAutosar.Arxml
