import Patchwise.Summary.Document

/-!
# Presentations of summaries

The form in which a summary is given out, as the user asks for it.

## Main definitions

- `Presentation` — text or document, and how much of it
- `Presentation.ofFlags` — the presentation that the command line asks for
- `Presentation.render` — a summary in a presentation
-/

namespace Patchwise

/-- The form in which a summary is given out. -/
structure Presentation where
  /-- Whether it is a document for other programs. -/
  json : Bool
  verbosity : Verbosity
  /-- Whether a text has colours, where the terminal has them. -/
  color : Bool
  deriving DecidableEq, Repr

namespace Presentation

/-- The form of a summary for which nothing is asked. -/
def usual : Presentation :=
  { json := false, verbosity := .normal, color := true }

/-- The verbosity that two flags ask for. Quiet counts more than verbose. -/
def verbosityOf (verbose quiet : Bool) : Verbosity :=
  if quiet then .quiet else if verbose then .verbose else .normal

/-- The form that flags ask for. -/
def ofFlags (json verbose quiet : Bool) : Presentation :=
  { json, verbosity := verbosityOf verbose quiet, color := true }

/-- How a text is drawn in a presentation. -/
def canvas (p : Presentation) (terminal : Bool) : Summary.Canvas :=
  { verbosity := p.verbosity, color := p.color, terminal }

def render (p : Presentation) (terminal : Bool) (s : Summary) : String :=
  if p.json then s.document p.verbosity else s.listing (p.canvas terminal)

/-- The result of one section in a presentation. -/
def renderSection (p : Presentation) (terminal : Bool) (r : SectionResult) : String :=
  if p.json then r.document else r.listing (p.canvas terminal)

end Presentation

end Patchwise
