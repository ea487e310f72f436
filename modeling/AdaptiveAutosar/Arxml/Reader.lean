import AdaptiveAutosar.Ucm.Manifest

/-! # Reading ARXML

`arxml::ArxmlReader` and `arxml::ArxmlNode` over the XML library. A document is read from a file or from the
printed content of a node; a node is found by a path of names, the first child of that name at each level.
-/

namespace AdaptiveAutosar.Arxml
open Foundations AdaptiveAutosar.Per AdaptiveAutosar.Ucm
set_option autoImplicit false

/-! ## Nodes -/

/-- A `pugi::xml_node`; none is the null node. -/
abbrev ArxmlNode := Option XmlNode

namespace ArxmlNode

/-- `child`, on the null node and on a text the null node. -/
def child (name : Bytes) (node : ArxmlNode) : ArxmlNode :=
  node.bind fun node => node.childNodes.find? (XmlNode.isNamed name)

/-- `text().as_string(defaultValue)`: a text itself, or the first text below an element. -/
def asString (defaultValue : Bytes) : ArxmlNode → Bytes
  | none => defaultValue
  | some (.text value) => value
  | some (.element _ _ children) => (children.findSome? XmlNode.textValue?).getD defaultValue

/-- `attribute(name).as_string()`. -/
def attributeValue (name : Bytes) : ArxmlNode → Bytes
  | some (.element _ attributes _) => ((attributes.find? fun entry => entry.1 == name).map Prod.snd).getD []
  | _ => []

def getShortName (node : ArxmlNode) : Bytes := (node.child (text "SHORT-NAME")).asString []

/-- `GetValue<std::string>`. -/
def getValue (node : ArxmlNode) (defaultValue : Bytes) : Bytes := node.asString defaultValue

/-- The text of the child of that name, when its `DEST` is the destination type. -/
def tryGetReference (node : ArxmlNode) (sourceNode destinationType : Bytes) : Option Bytes :=
  let child := node.child sourceNode
  if destinationType = child.attributeValue (text "DEST") then some (child.asString []) else none

end ArxmlNode

/-! ## Readers -/

structure XmlParseResult where
  statusOk : Bool
  encodingUtf8 : Bool
  /-- Whether the version is 1.0, when there is a declaration. -/
  declaration : Option Bool
  document : XmlDocument

/-- `load_buffer` with `parse_declaration`, and `xml_node::print`. -/
structure Pugixml where
  load : Bytes → XmlParseResult
  print : XmlNode → Bytes

structure ArxmlReader where
  mDocument : XmlDocument

namespace ArxmlReader

def validate (parseResult : XmlParseResult) : Bool :=
  if parseResult.statusOk && parseResult.encodingUtf8 then parseResult.declaration.getD true else false

/-- The constructor over a buffer. -/
def ofContent (library : Pugixml) (content : Bytes) : Outcome ArxmlReader :=
  let parseResult := library.load content
  if validate parseResult then .ok ⟨parseResult.document⟩
  else .error (.thrown (.invalidArgument "Invalid ARXML file content!"))

/-- The constructor over a file: one that does not open does not parse. -/
def ofFile (library : Pugixml) (filePath : Bytes) (files : Files) : Outcome ArxmlReader :=
  match files (cStr filePath) with
  | none => .error (.thrown (.invalidArgument "Invalid ARXML document file!"))
  | some content =>
    let parseResult := library.load content
    if validate parseResult then .ok ⟨parseResult.document⟩
    else .error (.thrown (.invalidArgument "Invalid ARXML document file!"))

/-- `mDocument.root()`, as an element without a name. -/
def root (reader : ArxmlReader) : XmlNode := .element [] [] reader.mDocument

def getRootNode (reader : ArxmlReader) (children : List Bytes) : ArxmlNode :=
  children.foldl (fun root child => root.child child) (some reader.root)

def getNodes (reader : ArxmlReader) (children : List Bytes) : List XmlNode :=
  match reader.getRootNode children with
  | none => []
  | some root => root.childNodes

end ArxmlReader

/-- `GetContent`, read again: the pattern of every nested part of a manifest. -/
def reread (library : Pugixml) (node : XmlNode) : Outcome ArxmlReader :=
  ArxmlReader.ofContent library (library.print node)

end AdaptiveAutosar.Arxml
