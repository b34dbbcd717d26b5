import SuiteOutline.Json
import SuiteOutline.Options
import SuiteOutline.Partition
import SuiteOutline.Spec

/-!
# Serialised forms

Specs, blocks, dropped entries and options as written data. A value with alternatives is an object
with one member, named for the alternative; a callable is its source and role, without its body.
-/

namespace SuiteOutline

variable {ν : Type}

def Callable.toJson (callable : Callable ν) : Json :=
  .object [("source", .string callable.source), ("tag", .string callable.tag.name)]

mutual

def Spec.toJson : Spec ν → Json
  | .mk rows => .object (rowsToJson rows)

def rowsToJson : List (String × Binding ν) → List (String × Json)
  | [] => []
  | (label, binding) :: rest => (label, binding.toJson) :: rowsToJson rest

def Binding.toJson : Binding ν → Json
  | .callable callable => .object [("callable", callable.toJson)]
  | .sequence entries => .object [("sequence", .array (entriesToJson entries))]
  | .mapping spec => .object [("node", spec.toJson)]
  | .other kind => .object [("other", .string kind)]

def entriesToJson : List (Entry ν) → List Json
  | [] => []
  | entry :: rest => entry.toJson :: entriesToJson rest

def Entry.toJson : Entry ν → Json
  | .reference raw => .object [("ref", .string raw)]
  | .hook callable => .object [("hook", callable.toJson)]
  | .suite spec => .object [("suite", spec.toJson)]
  | .other kind => .object [("other", .string kind)]

end

mutual

def Block.toJson : Block ν → Json
  | .mk kind label body =>
      .object [("kind", .string kind.name), ("label", .string label), ("body", body.toJson)]

def BlockBody.toJson : BlockBody ν → Json
  | .callable callable => .object [("callable", callable.toJson)]
  | .items items => .object [("items", .array (itemsToJson items))]

def itemsToJson : List (Item ν) → List Json
  | [] => []
  | item :: rest => item.toJson :: itemsToJson rest

def Item.toJson : Item ν → Json
  | .modules names => .object [("module_hook", .strings names)]
  | .inject names => .object [("inject_hook", .strings names)]
  | .before hook => .object [("before_hook", hook.toJson)]
  | .after hook => .object [("after_hook", hook.toJson)]
  | .nested block => .object [("nested", block.toJson)]

end

def blocksToJson (blocks : List (Block ν)) : Json :=
  .array (blocks.map Block.toJson)

def DroppedEntry.toJson (entry : DroppedEntry) : Json :=
  .object
    [("suite", .string entry.suite), ("index", .integer entry.index),
      ("shape", .string entry.shape), ("reason", .string entry.reason.text)]

def Dialect.toJson (dialect : Dialect) : Json :=
  .object
    [("describe", .string dialect.describe), ("it", .string dialect.it),
      ("before_each", .string dialect.beforeEach), ("after_each", .string dialect.afterEach),
      ("module", .string dialect.module), ("inject", .string dialect.inject),
      ("marker", .string dialect.marker.toString)]

def Options.toJson (options : Options) : Json :=
  .object
    [("debug", .boolean options.debug), ("max_depth", .integer options.maxDepth.toNat),
      ("unknown_entries", .string options.unknownEntries.name),
      ("validate_identifiers", .boolean options.validateIdentifiers),
      ("dialect", options.dialect.toJson)]

end SuiteOutline
