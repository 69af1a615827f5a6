import RecordBuilders.Target.Names

/-! What the generator recognises in declarations and which names it gives to generated members. -/
namespace RecordBuilders
open Target

/-- Target names of host types. The first entry of a name counts. -/
abbrev TypeMap := List (String × String)

namespace TypeMap

/-- An empty target name marks a transparent wrapper. -/
def default : TypeMap :=
  [("String", "str"), ("str", "str"), ("char", "str"), ("bool", "bool"),
    ("u8", "int"), ("u16", "int"), ("u32", "int"), ("u64", "int"), ("u128", "int"),
    ("usize", "int"), ("i8", "int"), ("i16", "int"), ("i32", "int"), ("i64", "int"),
    ("i128", "int"), ("isize", "int"), ("f32", "float"), ("f64", "float"),
    ("Vec", "list"), ("VecDeque", "list"), ("Option", "Optional"), ("HashMap", "dict"),
    ("BTreeMap", "dict"), ("HashSet", "set"), ("BTreeSet", "set"),
    ("Box", ""), ("Rc", ""), ("Arc", "")]

/-- Names without an entry stand for themselves. -/
def target (map : TypeMap) (name : String) : String := (map.lookup name).getD name

/-- The entries of `upper`, and those of `lower` for all other names. -/
def orElse (upper lower : TypeMap) : TypeMap :=
  upper ++ lower.filter fun (name, _) => (upper.lookup name).isNone

end TypeMap

/-- The choices that a user can make. -/
structure Settings where
  attributeName : String := "builder"
  eachKey : String := "each"
  optionalWrapper : String := "Option"
  sequenceWrapper : String := "Vec"
  builderSuffix : String := "Builder"
  factoryName : String := "builder"
  buildMethod : String := "build"
  typeMap : TypeMap := .default
  deriving Repr, DecidableEq

/-- Settings whose names can be written into a class. A suffix is usable if it is so behind a
letter. -/
structure Config extends Settings where
  factoryName_usable : isUsable factoryName = true
  buildMethod_usable : isUsable buildMethod = true
  builderSuffix_usable : isUsable ("X" ++ builderSuffix) = true

/-- The settings that are plain texts. -/
inductive TextSetting where
  | attributeName | eachKey | optionalWrapper | sequenceWrapper
  | builderSuffix | factoryName | buildMethod
  deriving Repr, DecidableEq

namespace TextSetting

def all : List TextSetting :=
  [.attributeName, .eachKey, .optionalWrapper, .sequenceWrapper, .builderSuffix, .factoryName,
    .buildMethod]

/-- The name of the setting, as users write it. -/
def key : TextSetting → String
  | .attributeName => "attribute_name"
  | .eachKey => "each_key"
  | .optionalWrapper => "optional_wrapper"
  | .sequenceWrapper => "sequence_wrapper"
  | .builderSuffix => "builder_suffix"
  | .factoryName => "factory_name"
  | .buildMethod => "build_method"

def ofKey? (key : String) : Option TextSetting := all.find? (·.key == key)

theorem ofKey?_key (t : TextSetting) : ofKey? t.key = some t := by
  cases t <;> rfl

end TextSetting

namespace Settings

def get (s : Settings) : TextSetting → String
  | .attributeName => s.attributeName
  | .eachKey => s.eachKey
  | .optionalWrapper => s.optionalWrapper
  | .sequenceWrapper => s.sequenceWrapper
  | .builderSuffix => s.builderSuffix
  | .factoryName => s.factoryName
  | .buildMethod => s.buildMethod

def set (s : Settings) (text : String) : TextSetting → Settings
  | .attributeName => { s with attributeName := text }
  | .eachKey => { s with eachKey := text }
  | .optionalWrapper => { s with optionalWrapper := text }
  | .sequenceWrapper => { s with sequenceWrapper := text }
  | .builderSuffix => { s with builderSuffix := text }
  | .factoryName => { s with factoryName := text }
  | .buildMethod => { s with buildMethod := text }

theorem get_set (s : Settings) (text : String) (t u : TextSetting) :
    (s.set text t).get u = if u = t then text else s.get u := by
  cases t <;> cases u <;> rfl

theorem typeMap_set (s : Settings) (text : String) (t : TextSetting) :
    (s.set text t).typeMap = s.typeMap := by
  cases t <;> rfl

/-- Fails with the first setting whose name is unusable. -/
def toConfig (s : Settings) : Except TextSetting Config :=
  if hf : isUsable s.factoryName = true then
    if hb : isUsable s.buildMethod = true then
      if hs : isUsable ("X" ++ s.builderSuffix) = true then .ok ⟨s, hf, hb, hs⟩
      else .error .builderSuffix
    else .error .buildMethod
  else .error .factoryName

theorem toConfig_eq_ok_iff {s : Settings} {c : Config} :
    s.toConfig = .ok c ↔ c.toSettings = s := by
  obtain ⟨t, hf, hb, hs⟩ := c
  unfold toConfig
  constructor
  · intro h
    split at h
    · split at h
      · split at h
        · cases h; rfl
        · cases h
      · cases h
    · cases h
  · rintro rfl
    simp [hf, hb, hs]

end Settings

namespace Config

/-- The conventional names. -/
def default : Config where
  factoryName_usable := by decide +kernel
  buildMethod_usable := by decide +kernel
  builderSuffix_usable := by decide +kernel

instance : Inhabited Config := ⟨default⟩

def builderName (c : Config) (recordName : String) : String := recordName ++ c.builderSuffix

end Config
end RecordBuilders
