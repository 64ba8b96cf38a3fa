import Wording.Box.Basic

/-!
# A sign-up form

An example: the rules of a sign-up form, its messages in two languages, and the messages for a set
of answers. The rules ask for a user name of three characters, an address, a password and a list of
tags, none of them empty.
-/

namespace Wording

namespace Signup

open Pattern (Regex CharSet)

/-! ## Rules -/

/-- A character of an address: no at sign and no blank. -/
def addressChar : CharSet := ⟨[.range 64 64, .cls .blank false false], true, .exact⟩

def lowerLetter : CharSet := ⟨[.range 97 122], false, .exact⟩

/-- An address: something, an at sign, something, a point, and two small letters at least. A line
feed may stand behind it. -/
def emailPattern : Regex := .ofList
  [.anchor .textStart, .loop 1 none false (.char addressChar), .char (.single '@' .exact),
    .loop 1 none false (.char addressChar), .char (.single '.' .exact),
    .loop 2 none false (.char lowerLetter), .anchor .lastLineEnd]

/-- Whether a text is an address. -/
def isEmail (text : String) : Bool :=
  (emailPattern.matchAt? text.toList.toArray 0 false).isSome

/-- The fields that must be filled in, with the labels that messages show. -/
def requiredFields : List (String × String) :=
  [("username", "Username"), ("email", "Email"), ("password", "Password")]

/-- A descriptor with further data. -/
def issue (name type : String) (extra : List (String × Value)) : Eval Descriptor := do
  return ⟨.str name, .str type, .null, ← Eval.newDict (extra.map fun e => (.str e.1, e.2))⟩

/-- The value of a field, null if it is not there. -/
def field (data : Value) (name : String) : Eval Value := do
  match data with
  | .dict r => return ((← get).lookup r (.str name)).getD .null
  | _ => Eval.fail .attribute

def isFilled (v : Value) : Eval Bool := do return (← get).truthy v

/-- An issue for each field that must be filled in and is not. -/
def missing (data : Value) : List (String × String) → Eval (List Descriptor)
  | [] => return []
  | (name, label) :: rest => do
    let filled ← isFilled (← field data name)
    let here ← if filled then pure [] else
      pure [← issue name "required" [("label", .str label)]]
    return here ++ (← missing data rest)

/-- A user name has three characters at least. -/
def shortName (data : Value) : Eval (List Descriptor) := do
  let v ← field data "username"
  if ← isFilled v then
    match ← Eval.lift (helperLen (← get) v) with
    | .int n =>
      if n < 3 then
        return [← issue "username" "minString"
          [("label", .str "Username"), ("min", .int 3), ("value", v)]]
      else return []
    | _ => return []
  else return []

/-- An email is an address. -/
def badEmail (data : Value) : Eval (List Descriptor) := do
  let v ← field data "email"
  if ← isFilled v then
    match v with
    | .str s =>
      if isEmail s then return []
      else return [← issue "email" "regEx" [("label", .str "Email"), ("value", v)]]
    | _ => Eval.fail .type
  else return []

/-- An issue for each tag that is empty; the positions are counted from `i`. -/
def emptyTags : Nat → List Value → Eval (List Descriptor)
  | _, [] => return []
  | i, v :: vs => do
    let filled ← isFilled v
    let here ← if filled then pure [] else
      pure [← issue ("tags." ++ toString i) "required" [("label", .str "Tag")]]
    return here ++ (← emptyTags (i + 1) vs)

/-- The items of a value in a list of their own. No list is longer than the largest count. -/
def listed (v : Value) : Eval (List Value) := do
  let items ← Eval.elements v
  if Value.maxSize < items.length then Eval.fail .memory else return items

/-- There is one tag at least, and none is empty. -/
def badTags (data : Value) : Eval (List Descriptor) := do
  let v ← field data "tags"
  let tags ← if ← isFilled v then listed v else pure []
  let none ← if tags.isEmpty then
      pure [← issue "tags" "minCount" [("label", .str "Tags"), ("minCount", .int 1)]]
    else pure []
  return none ++ (← emptyTags 0 tags)

/-- All issues with the answers of a form. -/
def validate (data : Value) : Eval (List Descriptor) := do
  let missing ← missing data requiredFields
  let short ← shortName data
  let email ← badEmail data
  let tags ← badTags data
  return missing ++ short ++ email ++ tags

/-! ## Messages -/

def name (id : String) : Expression := ⟨id, .name id⟩

/-- How many tags are asked for. -/
def minCountMessage : Value := .renderer "Add at least \x7b\x7b\x7bminCount\x7d\x7d\x7d tags"
  [.text "Add at least ", .interpolate (name "minCount"), .text " ",
    .cond ⟨"minCount == 1", .compare (.name "minCount") [(.eq, .literal (.int 1))]⟩
      [.text "tag"] (.otherwise [.text "tags"])]

/-- A node with messages by name. -/
def node (children : List (String × CatalogNode)) : CatalogNode :=
  .node (children.map fun c => (.str c.1, c.2))

def text (s : String) : CatalogNode := .leaf (.str s)

/-- A place that shows a name. -/
def shows (id : String) : String := "\x7b\x7b" ++ id ++ "\x7d\x7d"

/-- A statement. -/
def statement (code : String) : String := "\x7b\x7b# " ++ code ++ " \x7d\x7d"

/-- The messages of every form. -/
def sharedMessages : Catalog :=
  [(.str "en", node
      [("required", node
          [("_default", text (shows "label" ++ " is required")),
            ("password", text "Choose a password")]),
        ("minString", text (shows "label" ++ " must be at least " ++ shows "min" ++ " characters")),
        ("regEx", text (shows "label" ++ " is not valid (" ++ shows "value" ++ ")")),
        ("minCount", .leaf minCountMessage)]),
    (.str "de", node
      [("required", node [("_default", text (shows "label" ++ " ist erforderlich"))]),
        ("minString",
          text (shows "label" ++ " muss mindestens " ++ shows "min" ++ " Zeichen lang sein")),
        ("regEx", text (shows "label" ++ " ist ungültig (" ++ shows "value" ++ ")"))])]

/-- The messages of this form. -/
def formMessages : Catalog :=
  [(.str "en", node
      [("required", node
        [("tags.$",
          text ("Tag #" ++ shows " int(name.split(\x27.\x27)[-1]) + 1 " ++ " cannot be empty"))])]),
    (.str "de", node
      [("required", node [("tags.$", text "Schlagwort darf nicht leer sein")]),
        ("minCount", text ("Mindestens " ++ shows "minCount" ++ " " ++ statement "if minCount == 1"
          ++ "Schlagwort" ++ statement "else" ++ "Schlagwörter" ++ statement "end"
          ++ " angeben"))])]

/-! ## Boxes -/

/-- A box for the form; the messages of every form go into the defaults. -/
def newBox (language : Value) : Session Nat := do
  let shared ← Session.eval sharedMessages.toDict
  let _ ← Session.applyDefaults { DefaultsChange.none with messages := shared }
  let own ← Session.eval formMessages.toDict
  Session.newBox ⟨.absent, .absent, Marker.hashBraces, language, own, .dependency, none⟩

/-- The field that an issue is shown at: one that names no field is shown at all of them. -/
def shownAt (d : Descriptor) : Session Value := do
  if ← Session.truthy d.name then return d.name else return .str "__all__"

/-- Puts a message behind those of the same field. -/
def addMessage (field v : Value) : List (Value × List Value) → List (Value × List Value)
  | [] => [(field, [v])]
  | e :: es => if e.1.keyEq field then (e.1, e.2 ++ [v]) :: es else e :: addMessage field v es

/-- The messages for issues by field. -/
def render (box : Nat) (acc : List (Value × List Value)) :
    List Descriptor → Session (List (Value × List Value))
  | [] => return acc
  | d :: ds => do
    let field ← shownAt d
    let m ← Session.message box ⟨.descriptor d, .null, .null⟩
    render box (addMessage field m acc) ds

/-- A new dictionary with a list of messages for each field. -/
def toDict (messages : List (Value × List Value)) : Session Value := do
  let entries ← messages.mapM fun (k, vs) => do return (k, ← Session.eval (Eval.newList vs))
  Session.eval (Eval.newDict entries)

/-- The messages of a box for issues, in a new dictionary. -/
def renderToDict (box : Nat) (issues : List Descriptor) : Session Value := do
  toDict (← render box [] issues)

/-! ## A demonstration -/

/-- The messages of a box for issues, with the language of the box. -/
def collect (box : Nat) (issues : List Descriptor) : Session (Value × Value) := do
  let (_, language) ← Session.boxMessages box .null
  return (language, ← renderToDict box issues)

/-- Answers with a fault in most fields. -/
def sample : Eval Value := do
  let tags ← Eval.newList [.str "python", .str ""]
  Eval.newDict [(.str "username", .str "al"), (.str "email", .str "al@example"),
    (.str "tags", tags)]

/-- The messages for the sample in one language, and after a change of the language in the other. -/
def demo : Session Value := do
  let box ← newBox (.str "en")
  let issues ← Session.eval (do validate (← sample))
  let first ← collect box issues
  Session.setLanguage box (.str "de")
  let second ← collect box issues
  Session.eval (Eval.newDict [first, second])

end Signup

end Wording
