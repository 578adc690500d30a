import Ranging.Settings.Basic
import Ranging.Toml.Document

-- Settings as they are written down: in a table `scheduler`, where every limit may be left out.
namespace Ranging.Settings
open Toml

def limitOf? : Node → Option Nat
  | .integer value => if 0 ≤ value then some value.toNat else none
  | _ => none

-- Keys that name no limit are passed over.
def ofEntries (entries : Entries) : Option Settings :=
  Limit.all.foldlM (fun s l => match find? l.key entries with
    | none => some s
    | some node => (limitOf? node).map fun value => s.set value l) standard

-- The limits may also be listed in their order; what the list leaves out keeps its standard.
def ofItems (items : List Node) : Option Settings :=
  (Limit.all.zip items).foldlM (fun s pair => (limitOf? pair.2).map fun value => s.set value pair.1) standard

-- A date or a time of day in place of the table names no limit.
def ofDocument (entries : Entries) : Option Settings :=
  match find? "scheduler" entries with
  | none => some standard
  | some (.table _ sub) => ofEntries sub
  | some (.inlined sub) => ofEntries sub
  | some (.array items) => ofItems items
  | some .moment => some standard
  | some _ => none

-- What makes settings of a text: it is a table of values first, and the table names limits.
structure Decoder where
  document : String → Except String Entries
  settings : Entries → Except String Settings

namespace Decoder

-- A text that cannot be read as settings is malformed, whatever its limits are.
def parse (d : Decoder) (text : String) : Except SettingsError Settings :=
  match (d.document text).bind d.settings with
  | .error reason => .error (.malformed reason)
  | .ok s => s.validate

def own : Decoder where
  document text := (Toml.parse? text.toList).elim (.error "not a document") .ok
  settings entries := (ofDocument entries).elim (.error "not a table of limits") .ok

end Decoder

def parse (text : String) : Except SettingsError Settings := Decoder.own.parse text

end Ranging.Settings
