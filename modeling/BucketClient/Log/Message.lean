import BucketClient.Log.Content
import BucketClient.Log.Place

/-!
# Message templates

A log message is a template and its arguments. A template holds places for them, and `%%` is a percent sign. The
letter of a place says what it shows of an argument. A template without arguments is left as it is.

Each place takes the next argument, and every argument has to be taken. An argument that is alone and a record with
fields is different: a place may also ask for one of its fields by name, and it need not be taken.
-/

namespace BucketClient.Log

/-! ## Values for places -/

/-- What the places of a template take their values from: the fields that can be asked for, if there are any, and the
values that are left to be taken. -/
structure Supply where
  fields : Option (List (String × Value)) := none
  left : List Value

namespace Supply

/-- The supply of a list of arguments. -/
def ofArguments : List Value → Supply
  | [.record (field :: fields)] => { fields := some (field :: fields), left := [.record (field :: fields)] }
  | args => { left := args }

/-- Takes the next value. -/
def next (supply : Supply) : Except Failure (Value × Supply) :=
  match supply.left with
  | [] => .error (.type .missingArgument)
  | v :: left => .ok (v, { supply with left })

/-- Makes the field that a place asks for the next and last value. -/
def select (supply : Supply) (key : Key) : Except Failure Supply :=
  match key, supply.fields with
  | .none, _ => .ok supply
  | _, none => .error (.type .namedPlace)
  | .unclosed, _ => .error (.value .unclosedKey)
  | .named name, some fields => match fields.lookup name with
    | some v => .ok { supply with left := [v] }
    | none => .error (.missingField name)

/-- Whether nothing is left that has to be taken. -/
def isSpent (supply : Supply) : Bool :=
  supply.left.isEmpty || supply.fields.isSome

end Supply

/-! ## The layout of a place -/

/-- The number of an extent; one taken from the arguments may be negative. -/
def extent (reach : Reach) (supply : Supply) : Extent → Except Failure (Int × Supply)
  | .given n => if n ≤ reach.limit then .ok (n, supply) else .error (.value (.tooBig reach))
  | .argument => do
    let (v, supply) ← supply.next
    match wholeNumber? v with
    | none => .error (.type .extent)
    | some n =>
      if -(reach.limit : Int) - 1 ≤ n ∧ n ≤ reach.limit then .ok (n, supply)
      else .error (.overflow (.extent reach))

/-- The layout of a place; a negative width puts the text at the left, and a negative precision is zero. A negative
width that has no opposite within reach is none. -/
def layoutOf (place : Place) (supply : Supply) : Except Failure (Layout × Supply) := do
  let (width, supply) ← extent .width supply place.width
  let layout : Layout :=
    { place.flags with
      left := place.flags.left || decide (width < 0)
      width := if width.natAbs ≤ Reach.width.limit then width.natAbs else 0 }
  match place.precision with
  | none => .ok (layout, supply)
  | some precision =>
    let (precision, supply) ← extent .precision supply precision
    .ok ({ layout with precision := some precision.toNat }, supply)

/-! ## Filling places -/

/-- Lays out what a letter shows of an argument; a capital letter shows capital letters. -/
def convert? (layout : Layout) (letter : Char) (arg : Value) : Option (Except Failure (List Char)) :=
  (Content.ofArgument? letter arg).map fun content => do
    let text ← (← content).lay layout
    return if letter.isUpper then text.map Char.toUpper else text

/-- Fills a place of a template of `size` characters, with the text after its letter. -/
def fillPlace (size : Nat) (place : Place) (after : List Char) (supply : Supply) :
    Except Failure (List Char × Supply) := do
  let supply ← supply.select place.key
  let (layout, supply) ← layoutOf place supply
  match place.letter with
  | none => .error (.value .incompleteConversion)
  | some letter =>
    let (arg, supply) ← supply.next
    match convert? layout letter arg with
    | none => .error (.value (.unknownConversion letter (size - (after.length + 1))))
    | some shown => shown.map fun shown => (shown, supply)

/-- The rest of a template of `size` characters, with its places filled. -/
def fill (size : Nat) (text : List Char) (supply : Supply) : Except Failure (List Char) :=
  match text with
  | [] => if supply.isSpent then .ok [] else .error (.type .unusedArguments)
  | c :: rest =>
    if c ≠ '%' then (fill size rest supply).map (c :: ·)
    else match rest with
      | '%' :: rest => (fill size rest supply).map ('%' :: ·)
      | rest => match fillPlace size (Place.read rest).1 (Place.read rest).2 supply with
        | .error e => .error e
        | .ok (shown, supply) => (fill size (Place.read rest).2 supply).map (shown ++ ·)
termination_by text.length
decreasing_by all_goals grind [Place.length_read_le]

/-- The message of a template with its arguments. -/
def message (template : String) (args : List Value) : Except Failure String :=
  if args.isEmpty then .ok template
  else (fill template.length template.toList (.ofArguments args)).map String.ofList

end BucketClient.Log
