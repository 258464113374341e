namespace FinderQuery.Cli

inductive Theme where
  | auto
  | light
  | dark
  | plain
  deriving DecidableEq

namespace Theme

def all : List Theme := [auto, light, dark, plain]

def name : Theme → String
  | auto => "auto"
  | light => "light"
  | dark => "dark"
  | plain => "plain"

def ofName? (name : String) : Option Theme := all.find? (·.name = name)

end Theme

structure Style where
  parameters : Option String := none

def Style.paint (style : Style) (text : String) : String :=
  match style.parameters with
  | some parameters => "\x1b[" ++ parameters ++ "m" ++ text ++ "\x1b[0m"
  | none => text

structure Palette where
  query : Style := {}
  key : Style := {}
  warning : Style := {}

namespace Palette

def plain : Palette := {}

def light : Palette := ⟨⟨"35"⟩, ⟨"1;34"⟩, ⟨"1;31"⟩⟩

def dark : Palette := ⟨⟨"96"⟩, ⟨"1;94"⟩, ⟨"1;33"⟩⟩

def ofTheme : Theme → Palette
  | .light => light
  | .auto | .dark => dark
  | .plain => plain

end Palette

end FinderQuery.Cli
