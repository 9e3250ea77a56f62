import PolicyBridge.Config.Document
import PolicyBridge.Files
import PolicyBridge.Yaml.Value

namespace PolicyBridge.Config

def yamlFormat (anchors : Dict Nat Yaml.Node) : Format Yaml.Node where
  fields? names n := (n.follow anchors).bind (Yaml.Node.fields? anchors names)
  bool? n := (n.follow anchors).bind Yaml.Node.bool?
  natural? n := (n.follow anchors).bind Yaml.Node.natural?
  text? n := (n.follow anchors).bind Yaml.Node.text?
  items? n := (n.follow anchors).bind Yaml.Node.items?

def invalidYaml : Error :=
  .config "invalid YAML configuration: the text does not describe settings" none

def ofDocument? : Option Yaml.Document → Option Config
  | none => some standard
  | some d => (yamlFormat d.anchors).config? d.root

def ofYamlText (s : String) : Except Error Config :=
  match (Yaml.Document.read? s).bind ofDocument? with
  | some c => .ok c
  | none => .error invalidYaml

def unreadable (path : String) (e : FileError) : Error :=
  .config ("cannot read " ++ path ++ ": " ++ e.message) none

def ofYamlOrJsonText (s : String) : Except Error Config :=
  match ofYamlText s with
  | .ok c => .ok c
  | .error _ => ofJsonText s

def readerFor (extension : String) : String → Except Error Config :=
  match extension with
  | "yaml" => ofYamlText
  | "yml" => ofYamlText
  | "json" => ofJsonText
  | _ => ofYamlOrJsonText

def extensionOf (path : String) : String := ((Path.extension? path).getD "").toLower

def ofFile (fs : Files) (path : String) : Except Error Config :=
  match fs.read path with
  | .error e => .error (unreadable path e)
  | .ok text => do
    let c ← readerFor (extensionOf path) text
    c.validate
    return c

end PolicyBridge.Config
