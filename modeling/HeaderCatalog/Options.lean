import HeaderCatalog.Availability.Policy

/-!
# Options of a run

Which platform and version a run aims at, whether it keeps deprecated declarations, and the framework to which it
confines itself. `Options.policy` is the gate's part of them, `Options.marker?` what a framework's files have in
common.
-/

namespace HeaderCatalog

/-- The options of a run. -/
structure Options where
  platform : String
  target? : Option Version
  framework? : Option String
  keepDeprecated : Bool
deriving DecidableEq, Repr

namespace Options

/-- The options where nothing is said. -/
def standard : Options := ⟨"macos", none, none, false⟩

/-- The gate's part of the options. -/
def policy (o : Options) : Policy := ⟨o.platform, o.target?, o.keepDeprecated⟩

/-- A piece of the path of every file of the framework. -/
def marker? (o : Options) : Option String :=
  o.framework?.map fun name => "/" ++ name ++ ".framework/"

/-- Options as a document, absent ones as `null`. -/
def toJson (o : Options) : Json := .object [
  ("platform", .string o.platform),
  ("deploymentTarget", .orNull (o.target?.map Version.toJson)),
  ("framework", .orNull (o.framework?.map .string)),
  ("includeDeprecated", .bool o.keepDeprecated)]

/-- How options are read. -/
def schema : Json.Schema Options where
  label := "ExtractOptions"
  blank := standard
  fields := [
    .defaulted "platform" .text fun v o => { o with platform := v },
    .optional "deploymentTarget" Version.read fun v o => { o with target? := v },
    .optional "framework" .text fun v o => { o with framework? := v },
    .defaulted "includeDeprecated" .bool fun v o => { o with keepDeprecated := v }]

end Options

end HeaderCatalog
