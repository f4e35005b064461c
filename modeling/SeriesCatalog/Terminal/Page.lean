import SeriesCatalog.Environment
import SeriesCatalog.Terminal.Control

/-! # Pages with looks

A page is a row of texts with looks. It is shown with control sequences for the looks, or bare. The
environment decides, since the output is not a terminal.
-/

namespace SeriesCatalog.Terminal

inductive Look where
  | plain
  | strong
  | heading
  deriving Repr, DecidableEq

/-- The control sequences that switch a look on. -/
def Look.switch : Look → String
  | plain => ""
  | strong => "\x1b[1m"
  | heading => "\x1b[1m\x1b[4m"

structure Span where
  look : Look
  text : String
  deriving Repr, DecidableEq

namespace Span

def plain (text : String) : Span := ⟨.plain, text⟩

def strong (text : String) : Span := ⟨.strong, text⟩

def heading (text : String) : Span := ⟨.heading, text⟩

/-- The text between the control sequences that switch its look on and off. -/
def styled (s : Span) : String :=
  if s.look = .plain then s.text else s.look.switch ++ s.text ++ "\x1b[0m"

end Span

/-- Texts with looks in a row. -/
abbrev Page := List Span

/-- The environment asks for looks: `CLICOLOR_FORCE` is set to anything but zero, and `NO_COLOR` is
not set or empty. -/
def wantsLooks (e : Environment) : Bool :=
  ((e.lookup "NO_COLOR").all (· = .text "")) && ((e.lookup "CLICOLOR_FORCE").any (· ≠ .text "0"))

namespace Page

def ofLines (lines : List Page) : Page :=
  lines.flatMap (· ++ [.plain "\n"])

/-- The page as it is shown under an environment. -/
def output (page : Page) (e : Environment) : String :=
  let text := String.join (page.map Span.styled)
  if wantsLooks e then text else bare text

end Page

end SeriesCatalog.Terminal
