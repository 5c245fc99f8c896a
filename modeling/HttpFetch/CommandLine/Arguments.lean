import HttpFetch.CommandLine.Flag
import HttpFetch.Number.Decimal
import HttpFetch.Text.Quoted

/-!
# Arguments

A command line is words. Each word is classified by itself: flags may be cut short as long as
only one fits, a value may be attached to its flag, and switches may be joined in one word. A word
that starts with a dash and is no flag is still a value when it reads as a negative number or has a
space in it. After a word of two dashes everything is a value. Then the words are taken from left
to right: the first value that no flag takes is the URL, and what is left over is refused at the
end. Two dashes never are the value of a flag: attached to one they leave it blank.
-/

namespace HttpFetch.CommandLine

/-- Why a command line is refused. -/
inductive Defect
  | ambiguous (word : Text) (candidates : List Text)
  | missingValue (flag : Flag)
  | unusedValue (flag : Flag) (value : Text)
  | notInteger (flag : Flag) (value : Text)
  | notNumber (flag : Flag) (value : Text)
  | missingUrl
  | unrecognized (words : List Text)
  | header (line : Text)
  deriving DecidableEq, Repr

namespace Defect

/-- A complaint about one flag. -/
def about (flag : Flag) (complaint : Text) : Text :=
  "argument ".toList ++ flag.label ++ ": ".toList ++ complaint

def message : Defect → Text
  | ambiguous word candidates =>
    "ambiguous option: ".toList ++ word ++ " could match ".toList
      ++ ", ".toList.intercalate candidates
  | missingValue flag => about flag "expected one argument".toList
  | unusedValue flag value => about flag ("ignored explicit argument ".toList ++ value.quoted)
  | notInteger flag value => about flag ("invalid int value: ".toList ++ value.quoted)
  | notNumber flag value => about flag ("invalid float value: ".toList ++ value.quoted)
  | missingUrl => "the following arguments are required: url".toList
  | unrecognized words => "unrecognized arguments: ".toList ++ " ".toList.intercalate words
  | header line => "invalid header: ".toList ++ line.quoted

end Defect

/-- A flag as it stands in a word: by a long spelling or by a letter, and what is attached. -/
structure Mention where
  flag : Flag
  long : Bool
  attached : Option Text
  deriving DecidableEq, Repr

/-- What a word is. -/
inductive Word
  | plain (s : Text)
  | divider
  | mention (m : Mention)
  | unknown (s : Text)
  deriving DecidableEq, Repr

/-- The word after which everything is a value. -/
def twoDashes : Text := ['-', '-']

namespace Word

/-- Whether a text is written as a negative number, after which one line feed may stand. -/
def isNegativeNumber : Text → Bool
  | '-' :: body =>
    let body := if body.getLast? = some '\n' then body.dropLast else body
    let isDigit := fun c => (Digit.decimal? c).isSome
    match Text.cut '.' body with
    | (whole, none) => !whole.isEmpty && whole.all isDigit
    | (whole, some fraction) => whole.all isDigit && !fraction.isEmpty && fraction.all isDigit
  | _ => false

/-- The flags that a word of two dashes and part of a name can stand for. -/
def candidates (s : Text) : List (Text × Flag) :=
  Flag.spellings.filter fun (name, _) => s.isPrefixOf name

/-- What a word with a flag in it mentions, when the flag is spelled out. -/
def spelledOut? (s : Text) : Option Mention :=
  let long := twoDashes.isPrefixOf s
  match Flag.ofSpelling? s, Text.cut '=' s with
  | some flag, _ => some ⟨flag, long, none⟩
  | none, (name, some value) =>
    (Flag.ofSpelling? name).map fun flag => ⟨flag, long, some value⟩
  | none, (_, none) => none

/-- What a word mentions by the start of a long spelling, or by a letter with more behind it. -/
def shortened (s : Text) : Except Defect (Option Mention) :=
  if twoDashes.isPrefixOf s then
    let (name, value) := Text.cut '=' s
    match candidates name with
    | [] => .ok none
    | [(_, flag)] => .ok (some ⟨flag, true, value⟩)
    | several => .error (.ambiguous s (several.map (·.1)))
  else
    .ok ((Flag.ofSpelling? (s.take 2)).map fun flag => ⟨flag, false, some (s.drop 2)⟩)

/-- What a word is that starts with a dash. -/
def ofDashed (s : Text) : Except Defect Word :=
  match spelledOut? s with
  | some m => .ok (.mention m)
  | none =>
    if s.length = 1 then .ok (.plain s)
    else do
      match ← shortened s with
      | some m => pure (.mention m)
      | none =>
        pure (if isNegativeNumber s || s.contains ' ' then .plain s else .unknown s)

/-- What a word is before two dashes. -/
def ofText (s : Text) : Except Defect Word :=
  if s.head? = some '-' then ofDashed s else .ok (.plain s)

/-- What the words of a command line are. -/
def classify : List Text → Except Defect (List Word)
  | [] => .ok []
  | s :: rest =>
    if s = twoDashes then .ok (.divider :: rest.map .plain)
    else do
      let word ← ofText s
      let words ← classify rest
      pure (word :: words)

end Word

/-- What a command line says about a setting: nothing at all, that it has no value, or its
value. -/
inductive Given (α : Type)
  | unsaid
  | blank
  | value (a : α)
  deriving DecidableEq, Repr

namespace Given

/-- What the words of a flag say, when every text can be its value. -/
def ofValue {α : Type} : Option α → Given α
  | none => blank
  | some a => value a

/-- What is said, blank counting as nothing. -/
def value? {α : Type} : Given α → Option α
  | unsaid | blank => none
  | value a => some a

/-- What holds when `default` does unless something is said, and `empty` when no value is. -/
def resolve {α : Type} (default empty : α) : Given α → α
  | unsaid => default
  | blank => empty
  | value a => a

end Given

/-- What the flags of a command line ask for. A header may be blank. -/
structure Options where
  method : Given Text
  headers : List (Option Text)
  data : Given Text
  maxRedirects : Given Int
  connectTimeout : Given Double
  readTimeout : Given Double
  showHead : Bool
  logLevel : Given Text

/-- What a command line asks for. -/
structure Arguments extends Options where
  url : Text

/-- Why the words of a command line lead to no request. -/
inductive Stop
  | helped
  | refused (defect : Defect)
  deriving DecidableEq, Repr

/-- Arguments of which the URL may still be missing, and the words that nothing took. -/
structure Draft where
  url : Option Text
  options : Options
  leftOver : List Text

namespace Draft

def blank : Draft where
  url := none
  options := ⟨.unsaid, [], .unsaid, .unsaid, .unsaid, .unsaid, false, .unsaid⟩
  leftOver := []

def change (draft : Draft) (f : Options → Options) : Draft :=
  { draft with options := f draft.options }

def leave (draft : Draft) (words : List Text) : Draft :=
  { draft with leftOver := draft.leftOver ++ words }

/-- The draft after a switch. -/
def turnOn (draft : Draft) : Switch → Except Stop Draft
  | .help => .error .helped
  | .showHead => .ok (draft.change ({ · with showHead := true }))

/-- What a flag says whose value has to be read in a given way. -/
def reading {α : Type} (read : Text → Option α) (defect : Text → Defect) :
    Option Text → Except Stop (Given α)
  | none => .ok .blank
  | some s =>
    match read s with
    | some a => .ok (.value a)
    | none => .error (.refused (defect s))

/-- The draft with a value for a setting, or with the setting blank. -/
def give (draft : Draft) (setting : Setting) (value : Option Text) : Except Stop Draft := do
  let integer := reading (fun s => (Integer.parse s).toOption) (.notInteger (.setting setting))
  let number := reading Decimal.parse? (.notNumber (.setting setting))
  match setting with
  | .method => pure (draft.change ({ · with method := .ofValue value }))
  | .header => pure (draft.change fun o => { o with headers := o.headers ++ [value] })
  | .data => pure (draft.change ({ · with data := .ofValue value }))
  | .logLevel => pure (draft.change ({ · with logLevel := .ofValue value }))
  | .maxRedirects =>
    let given ← integer value
    pure (draft.change ({ · with maxRedirects := given }))
  | .connectTimeout =>
    let given ← number value
    pure (draft.change ({ · with connectTimeout := given }))
  | .readTimeout =>
    let given ← number value
    pure (draft.change ({ · with readTimeout := given }))

end Draft

/-- One thing that a word asks for. -/
inductive Effect
  | turnOn (switch : Switch)
  | give (setting : Setting) (value : Option Text)
  deriving DecidableEq, Repr

namespace Effect

def apply (draft : Draft) : Effect → Except Stop Draft
  | turnOn switch => draft.turnOn switch
  | give setting value => draft.give setting value

end Effect

/-- All that a word asks for, and the setting whose value is the next word, if there is one. -/
structure Expansion where
  effects : List Effect
  wanting : Option Setting
  deriving DecidableEq, Repr

namespace Mention

/-- A value as it is attached: two dashes are none. -/
def attachedValue (s : Text) : Option Text := if s = twoDashes then none else some s

/-- What a word with a flag in it asks for. The letter of a switch may have more letters after it,
each of a flag; anything else attached to a switch is refused. -/
def expand (m : Mention) : Except Defect Expansion :=
  match m with
  | ⟨.setting setting, _, some value⟩ => .ok ⟨[.give setting (attachedValue value)], none⟩
  | ⟨.setting setting, _, none⟩ => .ok ⟨[], some setting⟩
  | ⟨.switch switch, _, none⟩ => .ok ⟨[.turnOn switch], none⟩
  | ⟨.switch switch, _, some []⟩ => .error (.unusedValue (.switch switch) [])
  | ⟨.switch switch, long, some (c :: rest)⟩ =>
    match if long then none else Flag.ofSpelling? ['-', c] with
    | none => .error (.unusedValue (.switch switch) (c :: rest))
    | some flag => do
      let expansion ← expand ⟨flag, false, if rest.isEmpty then none else some rest⟩
      pure { expansion with effects := .turnOn switch :: expansion.effects }
termination_by (m.attached.map List.length).getD 0
decreasing_by
  simp only [Option.map_some, Option.getD_some, List.length_cons]
  split <;> simp

end Mention

namespace Draft

def withUrl (draft : Draft) (url : Text) : Draft := { draft with url := some url }

def applyAll (draft : Draft) (effects : List Effect) : Except Stop Draft :=
  effects.foldlM Effect.apply draft

/-- The draft after words. The two dashes before or after the URL are not left over. -/
def take (draft : Draft) : List Word → Except Stop Draft
  | [] => .ok draft
  | .plain s :: .divider :: rest =>
    if draft.url.isNone then take (draft.withUrl s) rest
    else take (draft.leave [s, twoDashes]) rest
  | .plain s :: rest =>
    if draft.url.isNone then take (draft.withUrl s) rest else take (draft.leave [s]) rest
  | .divider :: .plain s :: rest =>
    if draft.url.isNone then take (draft.withUrl s) rest
    else take (draft.leave [twoDashes, s]) rest
  | .divider :: rest => take (draft.leave [twoDashes]) rest
  | .unknown s :: rest => take (draft.leave [s]) rest
  | .mention m :: rest => do
    match m.expand with
    | .error defect => throw (.refused defect)
    | .ok ⟨effects, none⟩ => take (← draft.applyAll effects) rest
    | .ok ⟨effects, some setting⟩ =>
      match rest with
      | .plain s :: rest => take (← draft.applyAll (effects ++ [.give setting (some s)])) rest
      | _ => throw (.refused (.missingValue (.setting setting)))

end Draft

namespace Arguments

/-- The arguments that the words of a command line are. -/
def parse (words : List Text) : Except Stop Arguments :=
  match Word.classify words with
  | .error defect => .error (.refused defect)
  | .ok words => do
    let draft ← Draft.blank.take words
    match draft.url with
    | none => throw (.refused .missingUrl)
    | some url =>
      if draft.leftOver.isEmpty then pure ⟨draft.options, url⟩
      else throw (.refused (.unrecognized draft.leftOver))

end Arguments

end HttpFetch.CommandLine
