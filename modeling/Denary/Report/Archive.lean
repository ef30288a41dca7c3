import Denary.Report.Plain
import Denary.Disk.Basic
import Denary.Yaml.Report

-- Where reports go. A reporter receives a snapshot and says where the report is now, or why it
-- could not be made. Reports become files in a directory, or are kept in memory.

namespace Denary

structure Archive where
  disk : Disk
  delivered : List Snapshot
  deriving Inhabited

abbrev Reporter := Snapshot → Archive → Archive × Except Error Bytes

namespace Report

def fileName (position : Int) : Bytes :=
  ascii "numo_output_" ++ Decimal.integer position ++ ascii ".txt"

def render (format : Bytes) (s : Snapshot) : Except Error Bytes :=
  if format = ascii "yaml" then .ok (yaml s)
  else if format = ascii "text" then .ok (plain s)
  else .error (.unknownReportFormat format)

structure Destination where
  directory : Bytes
  format : Bytes
  deriving DecidableEq, Repr, Inhabited

-- A destination where an empty directory stands for the current one and an empty format for plain
-- reports.
def Destination.ofNames (directory format : Bytes) : Destination where
  directory := if directory = [] then ascii "." else directory
  format := if format = [] then ascii "text" else format

def Destination.reporter (d : Destination) : Reporter := fun s archive =>
  match render d.format s with
  | .error e => (archive, .error e)
  | .ok data =>
    let path := Path.join d.directory (fileName s.position)
    match archive.disk.write path data with
    | .error e => (archive, .error e)
    | .ok disk => ({ archive with disk := disk }, .ok path)

def keeping (answer : Bytes) : Reporter := fun s archive =>
  ({ archive with delivered := s :: archive.delivered }, .ok answer)

def refusing (e : Error) : Reporter := fun _ archive =>
  (archive, .error e)

end Report
end Denary
