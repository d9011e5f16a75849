import LayeredUnits.Command.Grammar

/-!
# Reading the arguments of one level

What has been read at a level of a command line. An option whose value is not
attached to it stays open: the next argument is its value, unless that is a
key itself, and it is checked only when something else comes. So of two faults
it is the one of the later argument that counts, if that argument cannot be
read at all.
-/

namespace LayeredUnits.Command

/-- What has been read at a level. It holds keys and operands as they were given, and what they come
to is decided when the level ends. -/
structure Reading where
  scope : Scope
  /-- The commands up to here. -/
  title : String
  /-- The keys with their values, in order. Switches have the empty value. -/
  given : List (Key × String) := []
  operands : List String := []
  /-- The option that is open, and its value if that has been read. -/
  pending : Option (Key × Option String) := none
  /-- Whether only operands follow. -/
  ended : Bool := false

namespace Reading

/-- Whether a key stands at the level. What the environment names does not stand anywhere. -/
def has (reading : Reading) (key : Key) : Bool := reading.given.any fun entry => entry.1 == key

/-- The values of a key, in order. -/
def values (reading : Reading) (key : Key) : List String :=
  (reading.given.filter fun entry => entry.1 == key).map (·.2)

/-- Checks a key with its value, and takes it over. A question for help or the version ends the
reading there and then, whatever comes later. -/
def take (reading : Reading) (key : Key) (value : Option String) : Except Refusal Reading :=
  match key with
  | .help => .error .help
  | .version => .error (.version reading.title)
  | _ =>
    if key.hasValue && value.isNone then .error .badValue
    else if !key.repeats && reading.has key then .error .conflict
    else if !key.admits (value.getD "") then .error .badValue
    else .ok { reading with given := reading.given ++ [(key, value.getD "")] }

/-- Takes over the option that is open, with the value that was read for it or with none. -/
def settle (reading : Reading) : Except Refusal Reading :=
  match reading.pending with
  | none => .ok reading
  | some (key, value) => { reading with pending := none }.take key value

/-- Takes over a key with its value, after the option that is open. So what stands first is checked
first. -/
def put (reading : Reading) (key : Key) (value : Option String) : Except Refusal Reading := do
  (← reading.settle).take key value

/-- Opens an option: its value is the next argument, if that can be one. -/
def begin (reading : Reading) (key : Key) : Except Refusal Reading := do
  .ok { ← reading.settle with pending := some (key, none) }

/-- Whether the next argument can be a value, because an option is open that has none yet. -/
def awaits (reading : Reading) : Bool :=
  match reading.pending with
  | some (_, none) => true
  | _ => false

/-- Reads a key that is written out, with the value that is attached to it. -/
def readLong (reading : Reading) (name : String) (value : Option String) : Except Refusal Reading :=
  match reading.scope.long? name with
  | none => .error .unknownArgument
  | some key =>
    match key.hasValue, value with
    | true, some value => reading.put key (some value)
    | true, none => reading.begin key
    | false, some _ => .error .needlessValue
    | false, none => reading.put key none

/-- Reads keys that are given by their letters. What follows the letter of an option is its
value, with or without an equals sign between. -/
def readLetters (reading : Reading) : List Char → Except Refusal Reading
  | [] => .ok reading
  | letter :: rest =>
    match reading.scope.letter? letter with
    | none => .error .unknownArgument
    | some key =>
      if key.hasValue then
        match rest with
        | [] => reading.begin key
        | '=' :: value => reading.put key (some (String.ofList value))
        | value => reading.put key (some (String.ofList value))
      else do (← reading.put key none).readLetters rest

/-- Reads an operand. Where there is no room for one, the argument counts as a command that is not
known if commands can stand there. -/
def readOperand (reading : Reading) (argument : String) : Except Refusal Reading := do
  if reading.scope.hasRoom reading.operands.length then
    let reading ← reading.settle
    .ok { reading with operands := reading.operands ++ [argument] }
  else if reading.scope.commands.isEmpty || (reading.ended && reading.scope.leadsOn argument) then
    .error .unknownArgument
  else .error .unknownCommand

/-- The name and the attached value of a key that is written out. The first equals sign parts them,
so a value may hold others. -/
def splitValue (text : List Char) : String × Option String :=
  match text.dropWhile (· != '=') with
  | [] => (String.ofList text, none)
  | _ :: value => (String.ofList (text.takeWhile (· != '=')), some (String.ofList value))

/-- Reads one argument. Two dashes alone end the keys, and a single dash alone is an operand. -/
def read (reading : Reading) (argument : String) : Except Refusal Reading :=
  if reading.ended then reading.readOperand argument
  else
    match argument.toList with
    | ['-', '-'] => .ok { reading with ended := true }
    | '-' :: '-' :: text =>
      let (name, value) := splitValue text
      reading.readLong name value
    | '-' :: letter :: rest => reading.readLetters (letter :: rest)
    | _ =>
      match reading.pending with
      | some (key, none) => .ok { reading with pending := some (key, some argument) }
      | _ => reading.readOperand argument

/-- A level that names no settings file has the one that the environment names, if it names any. It
is checked in the same way, so an environment that names the empty path is refused. -/
def inherit (reading : Reading) (named : Option String) : Except Refusal Reading :=
  match named with
  | none => .ok reading
  | some path =>
    if reading.has .settings || Key.settings.admits path then .ok reading else .error .badValue

/-- Ends a level. `led` says whether a command led on from it, and `named` is the settings file that
the environment names. -/
def finish (reading : Reading) (named : Option String) (led : Bool) : Except Refusal Reading := do
  let reading ← (← reading.settle).inherit named
  -- Where several things are wrong, the first of these is told.
  if !led && reading.scope.needsCommand then
    .error (if reading.given.isEmpty then .nothingAsked else .missingCommand)
  else if reading.has .locations && reading.has .content then .error .conflict
  else if reading.scope.needsOperand && reading.operands.isEmpty then .error .missingOperand
  else .ok reading

/-- It makes no difference which file the environment names, as long as it is one. -/
theorem inherit_of_named (reading : Reading) {path : String} (h : path ≠ "") :
    reading.inherit (some path) = reading.inherit none := by
  have hadmits : Key.settings.admits path = true := bne_iff_ne.mpr h
  unfold inherit
  dsimp only
  rw [hadmits, Bool.or_true, if_pos rfl]

/-- A level that ends although the environment names the empty path names a file itself. -/
theorem has_of_finish_blank {reading ended : Reading} {led : Bool}
    (h : reading.finish (some "") led = .ok ended) : ended.has .settings = true := by
  unfold finish at h
  cases hsettled : reading.settle with
  | error refusal =>
    rw [hsettled] at h
    cases h
  | ok settled =>
    have hblank : Key.settings.admits "" = false := rfl
    rw [hsettled] at h
    simp only [bind, Except.bind, inherit, hblank, Bool.or_false] at h
    cases hhas : settled.has .settings with
    | false =>
      rw [hhas] at h
      cases h
    | true =>
      rw [hhas, if_pos rfl] at h
      simp only at h
      split at h
      · cases h
      · split at h
        · cases h
        · split at h
          · cases h
          · cases h
            exact hhas

/-- A key that stands at a level has a value there. -/
theorem values_ne_nil_of_has {reading : Reading} {key : Key} (h : reading.has key = true) :
    reading.values key ≠ [] := by
  unfold has at h
  obtain ⟨entry, hentry, hkey⟩ := List.any_eq_true.mp h
  unfold values
  exact List.ne_nil_of_mem (List.mem_map_of_mem (List.mem_filter.mpr ⟨hentry, hkey⟩))

end Reading

end LayeredUnits.Command
