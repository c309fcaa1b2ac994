namespace PackageAudit.Script.Repair

/-- A source with repairs made. A stretch that is set aside becomes one blank; a token that is
supplied stands between blanks of its own. -/
structure Draft where
  text : List Char
  origins : Array Nat
  /-- The length of the source. -/
  full : Nat

namespace Draft

def ofSource (source : List Char) : Draft where
  text := source
  origins := Array.range source.length
  full := source.length

def ahead (d : Draft) (place : Nat) : Nat := d.origins.size - (d.full - place)

def origin (d : Draft) (place : Nat) : Nat := d.origins[place]?.getD d.full

/-- A blank that a statement does not end at. -/
def filler : Char := '\u00a0'

def replace (d : Draft) (start stop : Nat) (text : List Char) : Draft :=
  { d with
    text := d.text.take start ++ text ++ d.text.drop stop
    origins := d.origins.extract 0 start ++ Array.replicate text.length (d.origin start) ++
      d.origins.extract stop d.origins.size }

def without (d : Draft) (start stop : Nat) : Draft := d.replace start stop [filler]

/-- The draft with a token supplied at a place. A line break goes before it if the statement there
may end. -/
def supply (d : Draft) (place : Nat) (token : String) (mayEnd : Bool) : Draft :=
  d.replace place place ((if mayEnd then '\n' else filler) :: token.toList ++ [filler])

end Draft

end PackageAudit.Script.Repair
