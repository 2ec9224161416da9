import HeaderCatalog.Json.Schema
import HeaderCatalog.Version

/-!
# Availability

What a header says about the platforms and versions in which a declaration may be used: notes for single platforms,
and two remarks that hold everywhere.
-/

namespace HeaderCatalog

/-- A note on one platform. -/
structure PlatformNote where
  platform : String
  introduced? : Option Version
  deprecated? : Option Version
  obsoleted? : Option Version
  unavailable : Bool
  message? : Option String
deriving DecidableEq, Repr

/-- All that a header says about a declaration's availability. -/
structure Availability where
  alwaysDeprecated : Bool
  deprecatedMessage? : Option String
  alwaysUnavailable : Bool
  unavailableMessage? : Option String
  notes : List PlatformNote
deriving DecidableEq, Repr

namespace PlatformNote

/-- A note that says nothing. -/
def blank (platform : String) : PlatformNote := ⟨platform, none, none, none, false, none⟩

/-- A note as a document. -/
def toJson (note : PlatformNote) : Json := .record [
  ("platform", some (.string note.platform)),
  ("introduced", note.introduced?.map Version.toJson),
  ("deprecated", note.deprecated?.map Version.toJson),
  ("obsoleted", note.obsoleted?.map Version.toJson),
  ("unavailable", some (.bool note.unavailable)),
  ("message", note.message?.map .string)]

/-- How a note is read. -/
def schema : Json.Schema PlatformNote where
  label := "AvailabilityEntry"
  blank := blank ""
  fields := [
    .required "platform" .text fun v note => { note with platform := v },
    .optional "introduced" Version.read fun v note => { note with introduced? := v },
    .optional "deprecated" Version.read fun v note => { note with deprecated? := v },
    .optional "obsoleted" Version.read fun v note => { note with obsoleted? := v },
    .defaulted "unavailable" .bool fun v note => { note with unavailable := v },
    .optional "message" .text fun v note => { note with message? := v }]

end PlatformNote

namespace Availability

/-- Nothing is said about the declaration. -/
def blank : Availability := ⟨false, none, false, none, []⟩

/-- What is said, as a document. -/
def toJson (a : Availability) : Json := .record [
  ("alwaysDeprecated", some (.bool a.alwaysDeprecated)),
  ("deprecatedMessage", a.deprecatedMessage?.map .string),
  ("alwaysUnavailable", some (.bool a.alwaysUnavailable)),
  ("unavailableMessage", a.unavailableMessage?.map .string),
  ("platforms", some (.array (a.notes.map PlatformNote.toJson)))]

/-- How it is read. -/
def schema : Json.Schema Availability where
  label := "PlatformAvailability"
  blank := blank
  fields := [
    .defaulted "alwaysDeprecated" .bool fun v a => { a with alwaysDeprecated := v },
    .optional "deprecatedMessage" .text fun v a => { a with deprecatedMessage? := v },
    .defaulted "alwaysUnavailable" .bool fun v a => { a with alwaysUnavailable := v },
    .optional "unavailableMessage" .text fun v a => { a with unavailableMessage? := v },
    .defaulted "platforms" (.list PlatformNote.schema.read) fun v a => { a with notes := v }]

end Availability

end HeaderCatalog
