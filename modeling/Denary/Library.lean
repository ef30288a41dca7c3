import Denary.Engine
import Denary.Opcode.Create
import Denary.Opcode.Dialogue
import Denary.Opcode.Flow
import Denary.Opcode.Math
import Denary.Opcode.Report
import Denary.Opcode.Strings

-- The two libraries of handlers. The extended one replaces three bindings of the core one.

namespace Denary.Library

def core : List (UInt8 × Handler) :=
  [(0x33, Opcode.create 3), (0x34, Opcode.create 4), (0x35, Opcode.create 5),
   (0x36, Opcode.create 6), (0x37, Opcode.dialogue), (0x38, Opcode.math),
   (0x39, Opcode.report)]

def extension : List (UInt8 × Handler) :=
  [(0x32, Opcode.loop), (0x35, Opcode.condition), (0x36, Opcode.strings)]

def bindings (extended : Bool) : List (UInt8 × Handler) :=
  if extended then core ++ extension else core

def table (extended : Bool) : Table :=
  (bindings extended).foldl (fun t b => t.set b.1 (some b.2)) Table.empty

end Denary.Library
