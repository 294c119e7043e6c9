import EventScript.Document
import EventScript.Toml.Decode
import EventScript.Toml.Grammar

/-!
# Reading of configurations and documents

A format says which options or which document a text stands for. Whatever the format is, a document
is refused where two of its scripts share a name. The format that programs use is TOML. There a text
that is not well formed, lacks a required field or has a value of the wrong kind is refused as a
whole; fields that are not known are passed over.
-/
namespace EventScript

open Toml (Decoder Value)

/-- A format of configurations and documents: what a text stands for, if it is one. -/
structure Format where
  options : String → Except Rejection Options
  document : String → Except Rejection Document

namespace Format

/-- Reads a configuration. -/
def readOptions (format : Format) (source : String) : Except Fault Options :=
  (format.options source).mapError .badConfiguration

/-- Reads a document, whose scripts must have distinct names. -/
def readDocument (format : Format) (source : String) : Except Fault Document := do
  let document ← (format.document source).mapError .badDocument
  document.checkNames
  return document

end Format

/-- A mode is given by its name, or as a table that holds nothing but an empty entry under it. -/
def LocalActorMode.decode : Decoder LocalActorMode
  | .text name => ofText? name
  | .table [(name, .table [])] => ofText? name
  | .table [(name, .array [])] => ofText? name
  | _ => none

/-- The options that concern the text around a script: the includes, then the bank. -/
def Options.decodeAssembler (options : Options) : Decoder Options := fun value => do
  let record ← value.record?
  let includes ← record.defaulted 0 "includes" (Decoder.list Decoder.text) options.includes
  let bank ← record.defaulted 1 "bank" (Decoder.natural 65535) options.bank
  return { options with includes := includes, bank := bank }

/-- The options that concern the script itself: the mode of its local actor. -/
def Options.decodeScript (options : Options) : Decoder Options := fun value => do
  let record ← value.record?
  let mode ← record.defaulted 0 "local_actor" LocalActorMode.decode options.localActor
  return { options with localActor := mode }

/-- A configuration has two parts. What it does not mention keeps its default. -/
def Options.decode : Decoder Options := fun value => do
  let record ← value.record?
  let options : Options := {}
  let options ← record.defaulted 0 "assembler" options.decodeAssembler options
  record.defaulted 1 "script" options.decodeScript options

/-- Actors, triggers and owners are records with the one field `id`. -/
def decodeId : Decoder String := fun value => do
  (← value.record?).required 0 "id" Decoder.text

/-- A scene. -/
def Scene.decode : Decoder Scene := fun value => do
  let record ← value.record?
  let id ← record.required 0 "id" Decoder.text
  let actors ← record.defaulted 1 "actors" (Decoder.list decodeId) []
  let triggers ← record.defaulted 2 "triggers" (Decoder.list decodeId) []
  let declared ← record.defaulted 3 "variables" (some <$> Decoder.list Decoder.text ·) none
  return { id := id, actors := actors, triggers := triggers, declared := declared }

/-- An argument of an event. -/
def Arg.decode : Decoder Arg
  | .boolean value => some (.flag value)
  | .integer value => some (.number value)
  | .text value => some (.text value)
  | _ => none

/-- An event with at most so many levels of events below it. -/
def Event.decodeUpTo : Nat → Decoder Event
  | 0, _ => none
  | levels + 1, value => do
    let record ← value.record?
    let id ← record.defaulted 0 "id" Decoder.text ""
    let command ← record.required 1 "command" Decoder.text
    let args ← record.defaulted 2 "args" (Decoder.dictionary Arg.decode) []
    let children ← record.defaulted 3 "children"
      (Decoder.dictionary (Decoder.list (Event.decodeUpTo levels))) []
    let disabled ← record.defaulted 4 "disabled" Decoder.boolean false
    return { id := id, command := command, args := args, children := children,
             disabled := disabled }

/-- An event. The events below one lie deeper in its value than the event itself, so the height of
the value bounds their levels. -/
def Event.decode : Decoder Event := fun value => Event.decodeUpTo value.height value

/-- A script. -/
def Script.decode : Decoder Script := fun value => do
  let record ← value.record?
  let name ← record.required 0 "name" Decoder.text
  let exported ← record.defaulted 1 "export" Decoder.boolean false
  let events ← record.defaulted 2 "events" (Decoder.list Event.decode) []
  return { name := name, exported := exported, events := events }

/-- A document. -/
def Document.decode : Decoder Document := fun value => do
  let record ← value.record?
  let scene ← record.required 0 "scene" Scene.decode
  let owner ← record.defaulted 1 "entity" (some <$> decodeId ·) none
  let scripts ← record.defaulted 2 "scripts" (Decoder.list Script.decode) []
  return { setting := { scene := scene, owner := owner }, scripts := scripts }

/-- What a text stands for in TOML. -/
def Toml.read {α : Type} (decode : Decoder α) (source : String) : Except Rejection α :=
  match Toml.parse? source with
  | none => .error .grammar
  | some value =>
    match decode value with
    | none => .error .shape
    | some result => .ok result

/-- Configurations and documents in TOML. -/
def Format.toml : Format where
  options := Toml.read Options.decode
  document := Toml.read Document.decode

/-- Reads a configuration in TOML. -/
def Options.ofText : String → Except Fault Options := Format.toml.readOptions

/-- Reads a document in TOML. -/
def Document.ofText : String → Except Fault Document := Format.toml.readDocument

end EventScript
