import Denary.Machine

-- The digit that makes a report. A report that fails is worth a warning and nothing more.

namespace Denary.Opcode

def report : Handler := fun env site m =>
  let m := m.debug env Category.report
    (ascii "File operation at position " ++ Decimal.integer site.position)
  match env.reporter with
  | none => (m.debug env Category.report (ascii "no reporter configured"), .ok (.done false))
  | some reporter =>
    let (archive, answer) :=
      reporter (m.state.snapshot env.code env.settings.debug) m.world.archive
    let m := { m with world := { m.world with archive := archive } }
    match answer with
    | .error e =>
      (m.warn env site Category.report (ascii "report failed: " ++ e.message), .ok (.done false))
    | .ok place => (m.printLine (ascii "Created file: " ++ place), .ok (.done true))

end Denary.Opcode
