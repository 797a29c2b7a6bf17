/-!
# Relative and absolute paths

A path is a root (none, one slash, or exactly two) and the list of its components.  Repeated
slashes and single dots vanish when a text is read; two dots stay.
-/

namespace QuadMosaic

/-- A path: its root and its components. -/
structure Path where
  /-- The leading slashes: none, one or two. -/
  root : String
  /-- The components, none of which holds a slash. -/
  parts : List String
  deriving DecidableEq, Repr, Inhabited

namespace Path

/-- The runs of characters between slashes. -/
def splitSlash : List Char → List (List Char)
  | [] => [[]]
  | c :: rest =>
    if c = '/' then [] :: splitSlash rest
    else
      match splitSlash rest with
      | [] => [[c]]
      | part :: others => (c :: part) :: others

/-- The root of a text: exactly two slashes are kept, any other positive number is one. -/
def rootOf (s : List Char) : String :=
  match (s.takeWhile (· = '/')).length with
  | 0 => ""
  | 2 => "//"
  | _ => "/"

/-- The path that a text names. -/
def ofString (s : String) : Path where
  root := rootOf s.toList
  parts := ((splitSlash s.toList).filter fun p ↦ p ≠ [] ∧ p ≠ ['.']).map String.ofList

/-- The text of a path; the empty path is a single dot. -/
def toString (p : Path) : String :=
  if p.root = "" ∧ p.parts = [] then "." else p.root ++ String.intercalate "/" p.parts

instance : ToString Path := ⟨toString⟩

/-- The last component, empty when there is none. -/
def name (p : Path) : String := p.parts.getLastD ""

/-- The path without its last component. -/
def parent (p : Path) : Path := { p with parts := p.parts.dropLast }

/-- The paths of the directories that lead to `p`, outermost first, `p` itself left out. -/
def ancestors (p : Path) : List Path :=
  (List.range p.parts.length).map fun n ↦ { p with parts := p.parts.take n }

/-- A component without its suffix: the text from the last dot on, when that dot is neither the
first nor the last character. -/
def stemOf (name : List Char) : List Char :=
  let tail := name.reverse.takeWhile (· ≠ '.')
  let head := name.take (name.length - (tail.length + 1))
  if tail = [] ∨ head = [] ∨ ¬ name.contains '.' then name else head

/-- The path without the suffix of its last component, or nothing when it has no component. -/
def withoutSuffix? (p : Path) : Option Path :=
  match p.parts.getLast? with
  | none => none
  | some last =>
    some { p with parts := p.parts.dropLast ++ [String.ofList (stemOf last.toList)] }

/-- The same place with each pair of a component and the two dots that follow it dropped. -/
def resolved (p : Path) : Path :=
  { p with
    parts := (p.parts.foldl
      (fun kept part ↦
        if part = ".." then
          match kept with
          | [] => [".."]
          | ".." :: _ => ".." :: kept
          | _ :: rest => rest
        else part :: kept) []).reverse }

end Path

end QuadMosaic
