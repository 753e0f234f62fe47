import Downlink.Tool.Escape

/-!
# Arguments in a row

The simplest tool prints its arguments with blanks between them and a line feed at the end. Options
leave the line feed out and replace escapes; in a script escapes are always replaced.
-/

namespace Downlink.Tool.Row

/-- Whether an argument is an option rather than printed. -/
def isOption (argument : Raw) : Bool :=
  match argument with
  | '-' :: c :: rest => (c :: rest).all fun c => c == 'n' || c == 'e' || c == 'E'
  | _ => false

/-- Arguments with their escapes replaced and blanks between them, up to the escape that ends them;
`last` follows if there is none. -/
def joined (k : Escapes) (last : Raw) : List Raw → Raw
  | [] => last
  | argument :: rest =>
    match k.apply argument with
    | (out, .onward) => out ++ (if rest.isEmpty then [] else [' ']) ++ joined k last rest
    | (out, _) => out

/-- What the tool prints on its own. -/
def alone (arguments : List Raw) : Raw :=
  let options := (arguments.takeWhile isOption).flatten.filter (· != '-')
  let shown := arguments.dropWhile isOption
  let last := if options.contains 'n' then [] else ['\n']
  if (options.filter (· != 'n')).getLast? = some 'e' then joined .row last shown
  else [' '].intercalate shown ++ last

/-- What the tool prints in a script. -/
def inScript : List Raw → Raw
  | ['-', 'n'] :: arguments => joined .scriptArgument [] arguments
  | arguments => joined .scriptArgument ['\n'] arguments

example : alone ["-n".toList, "-e".toList, "5\\t6".toList] = "5\t6".toList := by decide +kernel
example : inScript ["-e".toList, "5".toList] = "-e 5\n".toList := by decide +kernel

end Downlink.Tool.Row
