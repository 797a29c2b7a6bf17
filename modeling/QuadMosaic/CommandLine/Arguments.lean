import QuadMosaic.Text.DecimalDigit

/-!
# Arguments of a command line

A grammar lists the options of a command, each with what it does to the settings read so far.  A
long option may be cut short as long as no other option begins the same way, its value may follow
after an equals sign, and short options without a value may be written as one word.  Two hyphens end
the options.  A name cut so short that it may stand for several options spoils the whole command
line; otherwise words are read from left to right, and what an option does it does when it is
reached.
-/

namespace QuadMosaic

/-- Why the reading of arguments ends early. -/
inductive Stop
  /-- Help is asked for. -/
  | help
  /-- The version is asked for. -/
  | version
  /-- The arguments do not fit the grammar. -/
  | usage
  deriving DecidableEq, Repr

/-- A change of the settings, which may be refused, or the end of the reading. -/
inductive OptionStep (σ : Type)
  | change (f : σ → Option σ)
  | stop (reason : Stop)

/-- What an option does. -/
inductive OptionAction (σ : Type)
  /-- It stands alone. -/
  | alone (step : OptionStep σ)
  /-- It takes a value, which it may refuse; it is given none when two hyphens are written into its
  word. -/
  | value (set : Option String → σ → Option σ)

namespace OptionAction

variable {σ : Type}

/-- An option that stands alone and is never refused. -/
def flag (set : σ → σ) : OptionAction σ := .alone (.change fun s ↦ some (set s))

/-- An option that ends the reading. -/
def stop (reason : Stop) : OptionAction σ := .alone (.stop reason)

end OptionAction

/-- An option under its names. -/
structure OptionSpec (σ : Type) where
  /-- The letter that follows one hyphen. -/
  short : Option Char := none
  /-- The word that follows two hyphens; empty for none. -/
  long : String := ""
  action : OptionAction σ

/-- The options of a command. -/
abbrev Grammar (σ : Type) := List (OptionSpec σ)

/-- What the options in one word do. -/
structure WordSteps (σ : Type) where
  steps : List (OptionStep σ) := []
  /-- Whether the word ends in an option that is not known. -/
  unknown : Bool := false
  /-- The last option of the word, when its value is the word that follows. -/
  needs : Option (String → σ → Option σ) := none

/-- One word of a command line. -/
inductive Word (σ : Type)
  /-- The two hyphens that end the options. -/
  | hyphens
  /-- A word that is no option. -/
  | plain (text : String)
  /-- A word that holds options. -/
  | options (steps : WordSteps σ)
  /-- A word that cannot be understood. -/
  | wrong

namespace Grammar

variable {σ : Type}

/-- The text before the first equals sign, and the text after it when there is one. -/
def splitAssigned (s : List Char) : List Char × Option String :=
  match s.span (· ≠ '=') with
  | (name, []) => (name, none)
  | (name, _ :: value) => (name, some (String.ofList value))

/-- The option of a letter. -/
def ofLetter? (g : Grammar σ) (c : Char) : Option (OptionAction σ) :=
  (g.find? fun o ↦ o.short = some c).map (·.action)

/-- The options that a long name, perhaps cut short, may stand for. -/
def ofName (g : Grammar σ) (name : List Char) : List (OptionAction σ) :=
  let named := g.filter fun o ↦ o.long ≠ ""
  match named.find? fun o ↦ o.long.toList = name with
  | some o => [o.action]
  | none => (named.filter fun o ↦ name.isPrefixOf o.long.toList).map (·.action)

/-- Whether a word is a long name cut so short that it may stand for several options. -/
def isAmbiguous (g : Grammar σ) (word : String) : Bool :=
  match word.toList with
  | '-' :: '-' :: body => 1 < (g.ofName (splitAssigned body).1).length
  | _ => false

/-- Whether no word before the end of the options is ambiguous. -/
def isClear (g : Grammar σ) (words : List String) : Bool :=
  (words.takeWhile (· ≠ "--")).all fun w ↦ !g.isAmbiguous w

/-- An option that takes a value set to the one written into its word, which two hyphens empty. -/
def assign (set : Option String → σ → Option σ) (written : String) : OptionStep σ :=
  .change (set (if written = "--" then none else some written))

/-- What a long option does, given the value written into its word. -/
def longSteps? : OptionAction σ → Option String → Option (WordSteps σ)
  | .alone step, none => some { steps := [step] }
  | .alone _, some _ => none
  | .value set, none => some { needs := some (set ∘ some) }
  | .value set, some v => some { steps := [assign set v] }

/-- What letters do that follow an option without a value: each is an option, and the first one that
takes a value takes the rest of the word. -/
def letterSteps? (g : Grammar σ) : List Char → Option (WordSteps σ)
  | [] => some {}
  | c :: rest =>
    match g.ofLetter? c, rest with
    | none, _ => none
    | some (.value set), [] => some { needs := some (set ∘ some) }
    | some (.value set), _ => some { steps := [assign set (String.ofList rest)] }
    | some (.alone step), _ =>
      (letterSteps? g rest).map fun w ↦ { w with steps := step :: w.steps }

/-- What an option after one hyphen does, given what follows it in its word: a value, or further
options, either of which may come after an equals sign. -/
def shortSteps? (g : Grammar σ) (action : OptionAction σ) : List Char → Option (WordSteps σ)
  | [] => longSteps? action none
  | '=' :: [] =>
    match action with
    | .alone _ => none
    | .value set => some { steps := [assign set ""] }
  | c :: rest =>
    let given := if c = '=' then rest else c :: rest
    match action with
    | .value set => some { steps := [assign set (String.ofList given)] }
    | .alone step => (g.letterSteps? given).map fun w ↦ { w with steps := step :: w.steps }

/-- Whether a text is a natural number, or a point with digits after it and perhaps before it; the
end of a line may follow. -/
def isNumber (s : List Char) : Bool :=
  let isDigit (c : Char) : Bool := (Text.decimalDigit? c).isSome
  match (if s.getLast? = some '\n' then s.dropLast else s).span isDigit with
  | (whole, []) => whole ≠ []
  | (_, '.' :: fraction) => fraction ≠ [] && fraction.all isDigit
  | _ => false

/-- A word that begins like an option but names none: a negative number or a text with a blank is
plain after all. -/
def unmatched (word : List Char) : Word σ :=
  if isNumber (word.drop 1) || word.contains ' ' then .plain (String.ofList word)
  else .options { unknown := true }

/-- A word whose options can be understood, or not. -/
def ofSteps? : Option (WordSteps σ) → Word σ
  | some steps => .options steps
  | none => .wrong

/-- A word before the end of the options. -/
def classify (g : Grammar σ) (word : String) : Word σ :=
  match word.toList with
  | ['-', '-'] => .hyphens
  | '-' :: '-' :: body =>
    let (name, value) := splitAssigned body
    match g.ofName name with
    | [] => unmatched word.toList
    | [action] => ofSteps? (longSteps? action value)
    | _ => .wrong
  | '-' :: c :: rest =>
    match g.ofLetter? c with
    | some action => ofSteps? (g.shortSteps? action rest)
    | none => unmatched word.toList
  | _ => .plain word

/-- One part of a command line: a plain word, the end of the options, options with the values they
need, or what cannot be understood. -/
inductive Item (σ : Type)
  | plain (text : String)
  | hyphens
  | options (steps : List (OptionStep σ)) (unknown : Bool)
  | wrong

/-- The parts of a command line, up to one that cannot be understood.  When only the head is wanted,
the parts end before the first plain word, which is left with all that follows it, and the options
may not be ended by hyphens. -/
def scan (g : Grammar σ) (headOnly : Bool) : List String → List (Item σ) × List String
  | [] => ([], [])
  | word :: rest =>
    match g.classify word with
    | .hyphens => if headOnly then ([.wrong], []) else (.hyphens :: rest.map .plain, [])
    | .plain text =>
      if headOnly then ([], word :: rest)
      else
        let (items, left) := scan g headOnly rest
        (.plain text :: items, left)
    | .wrong => ([.wrong], [])
    | .options w =>
      match w.needs with
      | none =>
        let (items, left) := scan g headOnly rest
        (.options w.steps w.unknown :: items, left)
      | some set =>
        match rest with
        | [] => ([.wrong], [])
        | value :: after =>
          match g.classify value with
          | .plain v =>
            let (items, left) := scan g headOnly after
            (.options (w.steps ++ [.change (set v)]) w.unknown :: items, left)
          | _ => ([.wrong], [])

end Grammar

/-- The plain words of a command: they are taken where they first stand together. -/
inductive PlainWords
  | untouched
  | taking (words : List String)
  | closed (words : List String)
  deriving DecidableEq, Repr

namespace PlainWords

/-- The words taken. -/
def words : PlainWords → List String
  | untouched => []
  | taking ws | closed ws => ws

/-- The plain words once an option follows. -/
def close : PlainWords → PlainWords
  | taking ws => closed ws
  | p => p

/-- The plain words with one more group, unless they are complete. -/
def add? (p : PlainWords) (more : List String) : Option PlainWords :=
  match p with
  | untouched => some (taking more)
  | taking ws => some (taking (ws ++ more))
  | closed _ => none

end PlainWords

/-- What has been read of a command line. -/
structure Reading (σ : Type) where
  settings : σ
  plain : PlainWords := .untouched
  /-- Whether some word was not understood. -/
  unknown : Bool := false

namespace Reading

variable {σ : Type}

/-- The reading after a step. -/
def takeStep (r : Reading σ) : OptionStep σ → Except Stop (Reading σ)
  | .stop reason => .error reason
  | .change f =>
    match f r.settings with
    | some settings => .ok { r with settings }
    | none => .error .usage

/-- The reading after plain words. -/
def takePlain (r : Reading σ) (words : List String) : Reading σ :=
  match r.plain.add? words with
  | some plain => { r with plain }
  | none => { r with unknown := true }

/-- The reading after a part of the command line. -/
def takeItem (r : Reading σ) : Grammar.Item σ → Except Stop (Reading σ)
  | .plain text => .ok (r.takePlain [text])
  | .hyphens => .ok (r.takePlain [])
  | .wrong => .error .usage
  | .options steps unknown =>
    steps.foldlM takeStep { r with plain := r.plain.close, unknown := r.unknown || unknown }

/-- The reading of a whole command line. -/
def ofWords (g : Grammar σ) (start : σ) (words : List String) : Except Stop (Reading σ) :=
  if g.isClear words then (g.scan false words).1.foldlM takeItem { settings := start }
  else .error .usage

/-- The reading of the options before the first plain word, and all words from that one on. -/
def ofHead (g : Grammar σ) (start : σ) (words : List String) :
    Except Stop (Reading σ × List String) := do
  unless g.isClear words do throw .usage
  let (items, rest) := g.scan true words
  let reading ← items.foldlM takeItem { settings := start }
  pure (reading, rest)

end Reading

end QuadMosaic
