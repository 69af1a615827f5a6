import RecordBuilders.Config.Basic
import RecordBuilders.Json.Equality
import RecordBuilders.Json.Reader

/-! Configurations from JSON documents. A document names its format and version; every other key
is optional, and keys are checked in the order of the document. -/
namespace RecordBuilders

inductive ConfigError where
  | malformed (error : Json.ReadError)
  | notAnObject
  | unsupportedFormat
  | unknownKey (key : String)
  | typeMapShape
  | notAText (key : String)
  | unusableName (setting : TextSetting)
  deriving Repr, DecidableEq

def ConfigError.message : ConfigError → String
  | .malformed error => error.message
  | .notAnObject => "generator config must be a JSON object"
  | .unsupportedFormat => "unsupported generator config format/version"
  | .unknownKey key => "unknown generator config key '" ++ key ++ "'"
  | .typeMapShape => "generator config type_map must map strings to strings"
  | .notAText key => "generator config key '" ++ key ++ "' must be a non-empty string"
  | .unusableName setting =>
    "generator config key '" ++ setting.key ++ "' must be a usable Python identifier"

/-- The document is not refused for what it says, but holds what cannot be a text here. -/
def ConfigError.isSurrogate : ConfigError → Bool
  | .malformed error => error.fault == .surrogate
  | _ => false

namespace Config

def formatName : String := "strict-builder-config"

/-- The version is compared by value, so a zero may be written in any way. -/
def isSupported (members : List (String × Json)) : Bool :=
  (members.lookup "format").any (·.same (.string formatName)) &&
    (members.lookup "version").any (·.same (.integer 0))

def textPairs : List (String × Json) → Option TypeMap
  | [] => some []
  | (name, .string text) :: members => (textPairs members).map ((name, text) :: ·)
  | _ => none

/-- Applies one member of a document. Given type names come before the conventional ones. -/
def applyMember (s : Settings) : String × Json → Except ConfigError Settings
  | ("format", _) => .ok s
  | ("version", _) => .ok s
  | ("type_map", value) =>
    match value with
    | .object members =>
      match textPairs members with
      | some pairs => .ok { s with typeMap := TypeMap.orElse pairs .default }
      | none => .error .typeMapShape
    | _ => .error .typeMapShape
  | (key, value) =>
    match TextSetting.ofKey? key with
    | none => .error (.unknownKey key)
    | some setting =>
      match value with
      | .string text => if text.isEmpty then .error (.notAText key) else .ok (s.set text setting)
      | _ => .error (.notAText key)

def ofSettings (s : Settings) : Except ConfigError Config :=
  s.toConfig.mapError .unusableName

def ofJson : Json → Except ConfigError Config
  | .object members => do
    if isSupported members then
      ofSettings (← members.foldlM applyMember {})
    else throw .unsupportedFormat
  | _ => throw .notAnObject

def ofText (text : List Char) : Except ConfigError Config := do
  ofJson (← (Json.parse text).mapError .malformed)

end Config
end RecordBuilders
