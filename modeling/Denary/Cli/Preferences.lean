import Denary.Disk.Basic
import Denary.Journal
import Denary.Yaml.Datum

-- The preferences file: a YAML mapping in the user's home directory with defaults for the command
-- line. A file that cannot be understood is ignored with a warning, and a file that is missing is
-- created.

namespace Denary.Cli

structure Preferences where
  background : Bytes := ascii "auto"
  reportDirectory : Bytes := ascii "."
  reportFormat : Bytes := ascii "text"
  extended : Bool := false
  warnOnCapacity : Bool := false
  deriving DecidableEq, Repr, Inhabited

namespace Preferences

inductive Item where
  | background
  | reportDirectory
  | reportFormat
  | extended
  | warnOnCapacity
  deriving DecidableEq, Repr, Inhabited

def Item.ofName? (name : Bytes) : Option Item :=
  if name = ascii "term_background" then some .background
  else if name = ascii "report_dir" then some .reportDirectory
  else if name = ascii "report_format" then some .reportFormat
  else if name = ascii "extended" then some .extended
  else if name = ascii "warn_on_capacity" then some .warnOnCapacity
  else none

def wholeType : String := "main.CLIConfig"

open Yaml (Decoding Document)

def set (p : Preferences) (d : Document) (item : Item) (v : Yaml.Node) : Decoding Preferences := do
  match item with
  | .background => return { p with background := (← Decoding.text d v).getD p.background }
  | .reportDirectory =>
    return { p with reportDirectory := (← Decoding.text d v).getD p.reportDirectory }
  | .reportFormat => return { p with reportFormat := (← Decoding.text d v).getD p.reportFormat }
  | .extended => return { p with extended := (← Decoding.bool d v).getD p.extended }
  | .warnOnCapacity =>
    return { p with warnOnCapacity := (← Decoding.bool d v).getD p.warnOnCapacity }

structure Draft where
  preferences : Preferences
  done : List Item

-- Takes one pair of a mapping. An entry that is set twice is an error, but in a merge keys that
-- were set before are passed over.
def Draft.pair (d : Document) (draft : Draft) : Yaml.Node × Yaml.Node → Decoding Draft
  | (key, value) => do
    if key.isMerge then return draft
    match ← Decoding.text d key with
    | none => return draft
    | some name =>
      if ← Decoding.isMerged (.text name) then return draft
      Decoding.noteMerged (.text name)
      match Item.ofName? name with
      | none => return draft
      | some item =>
        if draft.done.contains item then
          Decoding.complain [ascii "line " ++ Decimal.natural key.line ++ ascii ": field " ++ name
            ++ ascii " already set in type " ++ ascii wholeType]
          return draft
        return ⟨← draft.preferences.set d item value, item :: draft.done⟩

-- Reads a mapping: its own pairs first, and then the mappings that it merges.
def ofNode (d : Document) : (fuel : Nat) → Preferences → Yaml.Node → Decoding Preferences
  | 0, p, _ => return p
  | fuel + 1, p, n => Decoding.visit d n fun n => do
    match n with
    | .mapping _ _ pairs =>
      let errors := Yaml.repeatedKeys pairs
      if errors ≠ [] then
        Decoding.complain errors
        return p
      let draft ← pairs.foldlM (Draft.pair d) ⟨p, []⟩
      match Yaml.mergeValue? pairs with
      | none => return draft.preferences
      | some v =>
        Decoding.merging d d.bound pairs do
          Decoding.mergeParts d (ofNode d fuel) draft.preferences v
    | n =>
      let _ ← Decoding.valueOf wholeType (fun _ _ => (none : Option Unit)) n
      return p

def ofDocument : Option Document → Except Yaml.Stop Preferences
  | none => .ok {}
  | some d => do
    let reading : Decoding Preferences := do
      Decoding.tick
      ofNode d d.bound {} d.root
    let (p, progress) ← reading.run {}
    if progress.errors = [] then return p
    else throw (.problem (.types progress.errors.reverse))

def parse (text : Bytes) : Except Yaml.Stop Preferences := do
  let d ← match Yaml.document text with
    | .ok d => pure d
    | .error problem => throw (.problem problem)
  let p ← ofDocument d
  let word := Text.lower p.background
  let known := [ascii "light", ascii "dark", ascii "auto"].contains word
  return { p with background := if known then word else ascii "auto" }

def template : Bytes :=
  ascii "# Numo 0-9 CLI configuration
# This file is automatically created on first run

# Terminal background color for banner colors: \"auto\", \"dark\", \"light\"
term_background: auto

# Where the 9 opcode writes numo_output_<position>.txt
report_dir: .

# Report format: \"text\" or \"yaml\"
report_format: text

# Bind the loop (2), condition (5) and string (6) opcodes
extended: false

# Warn when the variable store or condition stack is full
warn_on_capacity: false
"

def directoryName : Bytes := ascii ".numo"

def fileName : Bytes := ascii "numo-cli.yaml"

def path? (home : Option Bytes) : Option Bytes :=
  match home with
  | none => none
  | some [] => none
  | some h => some (Path.join (Path.join h directoryName) fileName)

structure Loaded where
  preferences : Preferences
  disk : Disk
  warning : Bytes

def create (disk : Disk) (path : Bytes) : Disk :=
  match disk.makeDirectories (Path.parent path) with
  | none => disk
  | some disk' =>
    match disk'.write path template with
    | .ok disk'' => disk''
    | .error _ => disk'

-- Loads the preferences of the user with the given home directory. There is no way to go on from a
-- file whose outermost mapping merges others and has a list or mapping as a key.
def load (disk : Disk) (home : Option Bytes) : Option Loaded :=
  match path? home with
  | none => some ⟨{}, disk, []⟩
  | some path =>
    match disk.read path with
    | .error (.file _ _ .missing) => some ⟨{}, create disk path, []⟩
    | .error _ => some ⟨{}, disk, []⟩
    | .ok text =>
      match parse text with
      | .ok p => some ⟨p, disk, []⟩
      | .error (.problem e) =>
        some ⟨{}, disk, ascii "Warning: ignoring " ++ path ++ ascii ": " ++ Text.line e.message⟩
      | .error .unusableKey => none

def bannerColour (p : Preferences) : Bytes :=
  if p.background = ascii "light" then ascii "\x1b[33m" else warningColour

end Preferences
end Denary.Cli
