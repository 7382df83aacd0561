import RouteDocs.Failure
import RouteDocs.Rule.Message
import RouteDocs.Value.Whole

/-!
What a run of the generator is told about the document, read from data. Every entry has to be
known and of its kind; all that is wrong is told at once, with its places.
-/

namespace RouteDocs

structure Config where
  title : String := "API Specification"
  version : String := "v1"
  description : String := "For using the Example App API"
  openapiVersion : String := "3.0.2"
  servers : List String := []
  customMessages : List (String × List (String × String)) := []
  seed : Option Int := some 0
  locale : String := "en_US"
  deriving Repr, DecidableEq, Inhabited

namespace Config

def overrides (config : Config) : Rule.Overrides :=
  config.customMessages.flatMap fun (field, messages) =>
    messages.map fun (rule, template) => ((field, rule), template)

abbrev Detail := String × String

structure Reasons where
  markup : (text : String) → String
  values : (data : Value) → List Detail → String

abbrev Check := StateM (List Detail)

def note {α : Type} (place kind : String) (instead : α) : Check α := do
  modify (· ++ [(place, kind)])
  pure instead

def inside (place part : String) : String :=
  place ++ "." ++ part

def keyPlace : Value → String
  | .text s => s
  | .bool b => if b then "1" else "0"
  | key => key.literal

def textOf (value : Value) : Except String String :=
  match value.bare with
  | .text s => .ok s
  | .bytes _ octets =>
      match String.fromUTF8? ⟨octets.toArray⟩ with
      | some s => .ok s
      | none => .error "string_unicode"
  | _ => .error "string_type"

def readText (place : String) (value : Value) : Check String :=
  match textOf value with
  | .ok s => pure s
  | .error kind => note place kind ""

def readTexts (place : String) (value : Value) : Check (List String) :=
  let readItems (items : List Value) : Check (List String) :=
    items.zipIdx.mapM fun (item, index) => readText (inside place (toString index)) item
  match value.bare with
  | .list items => readItems items
  | .tuple items => readItems items
  | .set items => readItems items
  | _ => note place "list_type" []

def readSeed (place : String) (value : Value) : Check (Option Int) :=
  match value.bare with
  | .null => pure none
  | value => match value.toWhole with
      | .ok n => pure (some n)
      | .error problem => note place problem.kind none

/-- A mapping from texts. The key of an entry and its value are both read, even if one
of them is wrong. -/
def readMapping {α : Type} (readValue : String → Value → Check α) (place : String)
    (value : Value) : Check (List (String × α)) :=
  let readEntries (entries : List (Value × Value)) : Check (List (String × α)) :=
    entries.foldlM (fun made (key, value) => do
      let entryPlace := inside place (keyPlace key)
      let key ← readText (inside entryPlace "[key]") key
      let value ← readValue entryPlace value
      pure (Keyed.put key value made)) []
  match value.bare with
  | .map entries => readEntries entries
  | .view entries => readEntries entries
  | _ => note place "dict_type" []

def readMessages : String → Value → Check (List (String × List (String × String))) :=
  readMapping (readMapping readText)

def readEntry (config : Config) : String × Value → Check Config
  | ("title", v) => do pure { config with title := ← readText "title" v }
  | ("version", v) => do pure { config with version := ← readText "version" v }
  | ("description", v) => do pure { config with description := ← readText "description" v }
  | ("openapi_version", v) => do
      pure { config with openapiVersion := ← readText "openapi_version" v }
  | ("servers", v) => do pure { config with servers := ← readTexts "servers" v }
  | ("custom_messages", v) => do
      pure { config with customMessages := ← readMessages "custom_messages" v }
  | ("faker_seed", v) => do pure { config with seed := ← readSeed "faker_seed" v }
  | ("faker_locale", v) => do pure { config with locale := ← readText "faker_locale" v }
  | (name, _) => note name "extra_forbidden" config

def ofEntries (entries : List (String × Value)) : Except (List Detail) Config :=
  match (entries.foldlM readEntry {} : Check Config) [] with
  | (config, []) => .ok config
  | (_, details) => .error details

def namedEntries (entries : List (Value × Value)) : Except Failure (List (String × Value)) :=
  entries.mapM fun (key, value) => match key.bare with
    | .text name => .ok (name, value)
    | _ => .error (.fault .keywordsNotText)

/-- The configuration that data stand for; no data are the usual configuration. -/
def ofValue (reasons : Reasons) (data : Value) : Except Failure Config :=
  if !data.isTruthy then .ok {}
  else match data.bare with
    | .map entries => do
        (ofEntries (← namedEntries entries)).mapError fun details =>
          .config (.badValues details (reasons.values data details))
    | _ => .error (.config .notMapping)

end Config
end RouteDocs
