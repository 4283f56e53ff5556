import Stencil.Command.Render

/-!
# The command line

The words of a command line ask for one of four things: to render a template, to check a directory,
to list the tokens of a file, or to name the version.
-/

namespace Stencil.Command

/-- What a command line asks for. -/
inductive Task where
  | render (r : RenderRequest)
  | check (dir : String) (patterns : List String) (config : Option String)
  | tokens (file : String) (config : Option String)
  | version

/-- Why a command line asks for nothing. -/
inductive LineFault where
  | noCommand
  | unknownCommand (word : String)
  | unknownOption (word : String)
  | noValue (option : String)
  | missing (what : String)
  | unexpected (word : String)

/-- The fault in words. -/
def LineFault.message : LineFault → String
  | noCommand => "a command is required: render, check, tokens or version"
  | unknownCommand word => "unrecognized command '" ++ word ++ "'"
  | unknownOption word => "unexpected option '" ++ word ++ "'"
  | noValue option => "a value is required for '" ++ option ++ "'"
  | missing what => "the argument <" ++ what ++ "> is required"
  | unexpected word => "unexpected argument '" ++ word ++ "'"

/-- An option with a value. -/
inductive Setting where
  | config
  | context
  | dir
  | banFilter
  | banTag
  | output
deriving DecidableEq

/-- The option with a value that a word names. -/
def Setting.ofWord? : String → Option Setting
  | "-c" | "--config" => some config
  | "-x" | "--context" => some context
  | "-I" | "--dir" => some dir
  | "--ban-filter" => some banFilter
  | "--ban-tag" => some banTag
  | "-o" | "--output" => some output
  | _ => none

/-- The words of a command line by their roles, each in the order in which they stand. -/
structure Words where
  plain : List String := []
  settings : List (Setting × String) := []
  noAutoescape : Bool := false

namespace Words

/-- The last value of an option. -/
def value? (w : Words) (s : Setting) : Option String :=
  (w.settings.reverse.find? fun e => e.1 == s).map (·.2)

/-- All values of an option. -/
def values (w : Words) (s : Setting) : List String :=
  (w.settings.filter fun e => e.1 == s).map (·.2)

/-- Sorts the words of a command line by their roles. -/
def read : List String → Except LineFault Words
  | [] => .ok {}
  | "--" :: rest => .ok { plain := rest }
  | "-d" :: rest | "--debug" :: rest => read rest
  | "--no-autoescape" :: rest => do
    let w ← read rest
    pure { w with noAutoescape := true }
  | word :: rest =>
    match Setting.ofWord? word with
    | some s =>
      match rest with
      | value :: rest => do
        let w ← read rest
        pure { w with settings := (s, value) :: w.settings }
      | [] => .error (.noValue word)
    | none =>
      if word.startsWith "-" && word != "-" then .error (.unknownOption word)
      else do
        let w ← read rest
        pure { w with plain := word :: w.plain }

/-- What the words ask for. -/
def task (w : Words) : Except LineFault Task :=
  match w.plain with
  | [] => .error .noCommand
  | "render" :: args | "r" :: args =>
    match args with
    | [template] =>
      .ok (.render
        { template, context := w.value? .context, dirs := w.values .dir
          config := w.value? .config, banFilters := w.values .banFilter
          banTags := w.values .banTag, noAutoescape := w.noAutoescape
          output := w.value? .output })
    | [] => .error (.missing "TEMPLATE")
    | _ :: extra :: _ => .error (.unexpected extra)
  | "check" :: patterns =>
    .ok (.check ((w.value? .dir).getD ".") patterns (w.value? .config))
  | "tokens" :: args =>
    match args with
    | [file] => .ok (.tokens file (w.value? .config))
    | [] => .error (.missing "FILE")
    | _ :: extra :: _ => .error (.unexpected extra)
  | ["version"] => .ok .version
  | "version" :: extra :: _ => .error (.unexpected extra)
  | word :: _ => .error (.unknownCommand word)

end Words

end Stencil.Command
