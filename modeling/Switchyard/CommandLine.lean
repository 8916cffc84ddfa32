/-
  Switchyard.CommandLine
  ──────────────────────
  The arguments of the program.  Options have a long and mostly a short form;
  a value follows as the next argument or is attached (`--port=80`, `-p80`,
  `-p=80`).  Arguments are read one after the other, each in the state that
  those before it left (`Reading`).  No option may be given twice.
-/
import Switchyard.Config.Document
import Switchyard.Server

namespace Switchyard.CommandLine

/-! ## §1. Options. -/

inductive Flag where
  | config
  | port
  | workers
  | debug
  | help
  | version
  deriving DecidableEq, Repr, Inhabited

namespace Flag

def long : Flag → String
  | .config => "config"
  | .port => "port"
  | .workers => "workers"
  | .debug => "debug"
  | .help => "help"
  | .version => "version"

def short? : Flag → Option Char
  | .config => some 'c'
  | .port => some 'p'
  | .workers => some 'w'
  | .debug => none
  | .help => some 'h'
  | .version => some 'V'

def takesValue : Flag → Bool
  | .config | .port | .workers => true
  | .debug | .help | .version => false

def all : List Flag := [.config, .port, .workers, .debug, .help, .version]

def ofLong? (name : String) : Option Flag := all.find? fun f => f.long = name

def ofShort? (c : Char) : Option Flag := all.find? fun f => f.short? = some c

end Flag

/-- What the arguments ask for. -/
structure Options where
  config? : Option String := none
  port? : Option UInt16 := none
  workers? : Option Nat := none
  debug : Bool := false
  deriving DecidableEq, Repr, Inhabited

/-- What is wrong with the arguments. -/
inductive Misuse where
  | unexpected (argument : String)
  | missingValue (flag : Flag)
  | unexpectedValue (flag : Flag)
  | invalidValue (flag : Flag) (value : String)
  | repeated (flag : Flag)
  deriving DecidableEq, Repr, Inhabited

def Misuse.message : Misuse → String
  | .unexpected argument => s!"unexpected argument '{argument}' found"
  | .missingValue flag => s!"a value is required for '--{flag.long}' but none was supplied"
  | .unexpectedValue flag => s!"unexpected value for '--{flag.long}' found"
  | .invalidValue flag value => s!"invalid value '{value}' for '--{flag.long}'"
  | .repeated flag => s!"the argument '--{flag.long}' cannot be used multiple times"

/-- Why the program does not go on to serve. -/
inductive Stop where
  | help
  | version
  | misuse (fault : Misuse)
  deriving DecidableEq, Repr, Inhabited

/-! ## §2. Values. -/

/-- A port: a number with an optional sign; a minus fits only zero. -/
def portOf? (value : String) : Option UInt16 :=
  let small (n : Nat) : Option UInt16 := if n < UInt16.size then some (.ofNat n) else none
  match value.toList with
  | '-' :: cs => if Text.natural? cs = some 0 then some 0 else none
  | '+' :: cs => Text.natural? cs >>= small
  | cs => Text.natural? cs >>= small

/-- A count of 64 bits, with an optional plus. -/
def countOf? (value : String) : Option Nat :=
  let digits := match value.toList with
    | '+' :: cs => cs
    | cs => cs
  (Text.natural? digits).filter (· < UInt64.size)

namespace Options

/-- The options with a value for one that takes a value. -/
def assign (o : Options) (flag : Flag) (value : String) : Except Stop Options :=
  let invalid : Except Stop Options := .error (.misuse (.invalidValue flag value))
  let repeated : Except Stop Options := .error (.misuse (.repeated flag))
  match flag with
  | .config =>
      if o.config?.isSome then repeated
      else if value = "" then invalid
      else .ok { o with config? := some value }
  | .port =>
      if o.port?.isSome then repeated
      else match portOf? value with
        | some port => .ok { o with port? := some port }
        | none => invalid
  | .workers =>
      if o.workers?.isSome then repeated
      else match countOf? value with
        | some n => .ok { o with workers? := some n }
        | none => invalid
  | .debug | .help | .version => .error (.misuse (.unexpectedValue flag))

/-- The options with one that takes no value. -/
def raise (o : Options) : Flag → Except Stop Options
  | .debug => if o.debug then .error (.misuse (.repeated .debug)) else .ok { o with debug := true }
  | .help => .error .help
  | .version => .error .version
  | flag => .error (.misuse (.missingValue flag))

end Options

/-! ## §3. Reading arguments. -/

/-- What is known while arguments are read. -/
structure Reading where
  options : Options := {}
  /-- The option whose value comes next. -/
  pending : Option Flag := none
  /-- Whether two dashes have ended the options. -/
  ended : Bool := false
  deriving Repr, Inhabited

namespace Reading

/-- A long option, with its value if one is attached. -/
def long (r : Reading) (text : List Char) : Except Stop Reading := do
  let (name, value?) := match Text.cutFirst? '=' text with
    | some (name, value) => (name, some (String.ofList value))
    | none => (text, none)
  let some flag := Flag.ofLong? (String.ofList name)
    | .error (.misuse (.unexpected ("--" ++ String.ofList text)))
  match value? with
  | some value => return { r with options := ← r.options.assign flag value }
  | none =>
      if flag.takesValue then return { r with pending := some flag }
      else return { r with options := ← r.options.raise flag }

/-- Short options behind one dash; what follows one that takes a value is its
value. -/
def short (r : Reading) : List Char → Except Stop Reading
  | [] => .ok r
  | c :: cs => do
      let some flag := Flag.ofShort? c | .error (.misuse (.unexpected (String.ofList ['-', c])))
      if flag.takesValue then
        match cs with
        | [] => return { r with pending := some flag }
        | '=' :: value | value =>
            return { r with options := ← r.options.assign flag (String.ofList value) }
      else short { r with options := ← r.options.raise flag } cs

/-- A value that is expected: it may be a dash, but not begin with one. -/
def isValue (argument : String) : Bool := argument = "-" || argument.toList.head? != some '-'

/-- Reads one argument. -/
def step (r : Reading) (argument : String) : Except Stop Reading :=
  match r.pending with
  | some flag =>
      if isValue argument then do
        return { r with options := ← r.options.assign flag argument, pending := none }
      else .error (.misuse (.missingValue flag))
  | none =>
      match r.ended, argument.toList with
      | false, ['-', '-'] => .ok { r with ended := true }
      | false, '-' :: '-' :: text => r.long text
      | false, '-' :: c :: cs => r.short (c :: cs)
      | _, _ => .error (.misuse (.unexpected argument))

/-- What the arguments ask for, once all are read. -/
def finish (r : Reading) : Except Stop Options :=
  match r.pending with
  | some flag => .error (.misuse (.missingValue flag))
  | none => .ok r.options

end Reading

/-- What the arguments ask for. -/
def parse (arguments : List String) : Except Stop Options := do
  (← arguments.foldlM Reading.step {}).finish

/-! ## §4. From the arguments to a running server. -/

def helpText : String := "Pattern-routed HTTP server

Usage: dispatch-server [OPTIONS]

Options:
  -c, --config <CONFIG>    TOML configuration file. Watched for changes
  -p, --port <PORT>        Plain HTTP port, overriding the file
  -w, --workers <WORKERS>  Worker count, overriding the file
      --debug              Verbose logging and diagnostic routes
  -h, --help               Print help
  -V, --version            Print version
"

/-- How the program ends: its exit code and what it prints. -/
structure Ending where
  code : Nat
  output : String := ""
  errors : List String := []
  deriving DecidableEq, Repr, Inhabited

namespace Ending

def success : Ending := { code := 0 }

/-- The end after complaints, each of which names the program. -/
def failure (complaints : List String) : Ending :=
  { code := 1, errors := complaints.map fun c => programName ++ ": " ++ c }

/-- The end of a program that does not go on to serve. -/
def ofStop : Stop → Ending
  | .help => { code := 0, output := helpText }
  | .version => { code := 0, output := s!"{programName} {Switchyard.version}\n" }
  | .misuse fault => { code := 2, errors := ["error: " ++ fault.message] }

end Ending

/-- The configuration with what the arguments override. -/
def Options.override (o : Options) (c : Config) : Config :=
  { c with
    debug := c.debug || o.debug
    listener := { c.listener with port := o.port?.getD c.listener.port }
    workers := { c.workers with count := (o.workers?.map .exactly).getD c.workers.count } }

/-- The configuration to serve with: that of the file, which has to be valid,
or else the default one, with the overrides, and then valid again.  `read`
gives the content of a file. -/
def Options.configure (o : Options) (read : String → Except FileError String) :
    Except (List String) Config := do
  let base ← match o.config? with
    | none => pure ({} : Config)
    | some path => (Config.ofFile path (read path)).mapError fun e => [e.message]
  let config := o.override base
  if config.IsValid then return config
  else .error (config.violations.map Violation.message)

/-- The server that the program comes to run, or how it ends without one. -/
def launch (arguments : List String) (fs : FileSystem) (host : Host) :
    Except Ending (Server Empty Unit) := do
  let options ← (parse arguments).mapError .ofStop
  let config ← (options.configure fs.readText).mapError .failure
  match (Server.new config .empty fs ()).start host with
  | (.ok _, server, _) => return server
  | (.error e, _, _) => .error (.failure [e.message])

/-- The whole program, if a signal stops the server once it runs. -/
def run (arguments : List String) (fs : FileSystem) (host : Host) : Ending :=
  match launch arguments fs host with
  | .error ending => ending
  | .ok server =>
      match (server.stop host).1 with
      | .ok () => .success
      | .error e => .failure [e.message]

end Switchyard.CommandLine
