import AdaptiveAutosar.Per.Storage

/-! # The execution manifest

An XML document as the parser keeps it: elements and text, no comments and no declarations.
`injectProcess` is the edit of the manifest: the new `PROCESS` goes to the end of the first
`PROCESSES` element in document order, unless one of that short name is there already.
-/

namespace AdaptiveAutosar.Ucm
open Foundations AdaptiveAutosar.Per
set_option autoImplicit false

inductive XmlNode where
  | element (name : Bytes) (attributes : List (Bytes × Bytes)) (children : List XmlNode)
  | text (value : Bytes)

abbrev XmlDocument := List XmlNode

namespace XmlNode

def isElement : XmlNode → Bool
  | element _ _ _ => true
  | text _ => false

def isNamed (name : Bytes) : XmlNode → Bool
  | element n _ _ => n == name
  | text _ => false

def childNodes : XmlNode → List XmlNode
  | element _ _ children => children
  | text _ => []

def textValue? : XmlNode → Option Bytes
  | element _ _ _ => none
  | text value => some value

/-- `child("SHORT-NAME").text().as_string()`, empty when there is no such child or no text in it. -/
def shortName (node : XmlNode) : Bytes :=
  match node.childNodes.find? (isNamed (Per.text "SHORT-NAME")) with
  | none => []
  | some child => (child.childNodes.findSome? textValue?).getD []

end XmlNode

/-- `document_element()`. -/
def documentElement (document : XmlDocument) : Option XmlNode := document.find? XmlNode.isElement

mutual

/-- Edits the children of the first element of that name in document order; none if there is none. -/
def XmlNode.editFirst (name : Bytes) (edit : List XmlNode → List XmlNode) : XmlNode → Option XmlNode
  | .text _ => none
  | .element n attributes children =>
    if n = name then some (.element n attributes (edit children))
    else (editFirst name edit children).map (.element n attributes ·)

def editFirst (name : Bytes) (edit : List XmlNode → List XmlNode) :
    List XmlNode → Option (List XmlNode)
  | [] => none
  | node :: rest =>
    match node.editFirst name edit with
    | some node' => some (node' :: rest)
    | none => (editFirst name edit rest).map (node :: ·)

end

mutual

/-- Whether an element of that name is the node or below it. -/
def XmlNode.hasElement (name : Bytes) : XmlNode → Bool
  | .text _ => false
  | .element n _ children => n = name || hasElement name children

def hasElement (name : Bytes) : List XmlNode → Bool
  | [] => false
  | node :: rest => node.hasElement name || hasElement name rest

end

mutual

theorem XmlNode.editFirst_isSome (name : Bytes) (edit : List XmlNode → List XmlNode) (node : XmlNode) :
    (node.editFirst name edit).isSome = node.hasElement name := by
  cases node with
  | text value => rfl
  | element n attributes children =>
    unfold XmlNode.editFirst XmlNode.hasElement
    by_cases h : n = name
    · simp [h]
    · simp [h, editFirst_isSome name edit children]

theorem editFirst_isSome (name : Bytes) (edit : List XmlNode → List XmlNode) (nodes : List XmlNode) :
    (editFirst name edit nodes).isSome = hasElement name nodes := by
  cases nodes with
  | nil => rfl
  | cons node rest =>
    have hn := XmlNode.editFirst_isSome name edit node
    have hr := editFirst_isSome name edit rest
    unfold editFirst hasElement
    cases he : node.editFirst name edit with
    | none => simp only [← hn, ← hr, he, Option.isSome_map, Option.isSome_none, Bool.false_or]
    | some node' => simp only [← hn, he, Option.isSome_some, Bool.true_or]

end

def injectProcess (procDoc manifestDoc : XmlDocument) : Option XmlDocument :=
  let newProcess := documentElement procDoc
  let newName := (newProcess.map XmlNode.shortName).getD []
  editFirst (text "PROCESSES")
    (fun processes =>
      if (processes.filter (XmlNode.isNamed (text "PROCESS"))).any fun child => child.shortName == newName
      then processes else processes ++ newProcess.toList)
    manifestDoc

theorem injectProcess_isSome (procDoc manifestDoc : XmlDocument) :
    (injectProcess procDoc manifestDoc).isSome = hasElement (text "PROCESSES") manifestDoc :=
  editFirst_isSome _ _ manifestDoc

/-- Parser and printer of the XML library. -/
structure XmlCodec where
  load : Bytes → Option XmlDocument
  save : XmlDocument → Bytes

/-- `load_file`: the file opens and parses. -/
def XmlCodec.loadFile (codec : XmlCodec) (opens : Bool) (path : Bytes) (files : Files) :
    Option XmlDocument :=
  (if opens then files (cStr path) else none).bind codec.load

end AdaptiveAutosar.Ucm
