import DuplexRpc.Text.Alphanumeric
import DuplexRpc.Text.Blank

/-!
Log filters: directives separated by commas. A directive names a level, a target or a span with
its fields, and behind a target or a span it may set their level: `store[read{key}]=debug`. Only
their form is checked.
-/

namespace DuplexRpc.Telemetry

open DuplexRpc.Text

inductive FilterFault where
  | badLevel
  | badDirective
  deriving DecidableEq, Repr

def FilterFault.message : FilterFault → String
  | .badLevel =>
    "error parsing level filter: expected one of \"off\", \"error\", \"warn\", \"info\", " ++
      "\"debug\", \"trace\", or a number 0-5"
  | .badDirective => "invalid filter directive"

namespace LogFilter

private def levelNames : List String := ["off", "error", "warn", "info", "debug", "trace"]

private def isSmallNumber (cs : List Char) : Bool :=
  let digits := match cs with
    | '+' :: rest => rest
    | _ => cs
  !digits.isEmpty && digits.all Char.isDigit && Nat.ofDigitChars 10 digits 0 ≤ 5

/-- Levels are written in any case, or as a number. -/
def isLevel (cs : List Char) : Bool :=
  isSmallNumber cs || levelNames.contains (String.ofList (cs.map Char.toLower))

/-- What stands behind a span or a target: the text of its level, if there is one. -/
private def levelBehindSpan? : List Char → Except FilterFault (Option (List Char))
  | [] => .ok none
  | '=' :: level => .ok (some level)
  | _ => .error .badDirective

/-- Behind the opening brace of a span's fields, of which there is at least one. -/
private def levelBehindFields? (cs : List Char) : Except FilterFault (Option (List Char)) :=
  match cs.takeWhile (· != '}'), cs.dropWhile (· != '}') with
  | _ :: _, '}' :: ']' :: rest => levelBehindSpan? rest
  | _, _ => .error .badDirective

/-- Behind the opening bracket of a span, whose name may be empty. -/
private def levelBehindBracket? (cs : List Char) : Except FilterFault (Option (List Char)) :=
  match cs.dropWhile fun c => c != ']' && c != '{' with
  | ']' :: rest => levelBehindSpan? rest
  | '{' :: rest => levelBehindFields? rest
  | _ => .error .badDirective

private def startsWord (c : Char) : Bool :=
  isAlphanumeric c || c = '-' || c = ':' || c = '_'

/-- The text of a directive's level where one is set; the word that a directive consists of may
itself be a level. -/
def level? : List Char → Except FilterFault (Option (List Char))
  | [] => .error .badDirective
  | '[' :: rest => levelBehindBracket? rest
  | c :: rest =>
    if !startsWord c then .error .badDirective
    else match rest.dropWhile fun c => c != '=' && c != '[' with
      | '=' :: level => .ok (some level)
      | '[' :: rest => levelBehindBracket? rest
      | _ => .ok none

/-- Blanks around a directive are ignored except by a level, which reaches to the end of the text,
and which none is once blanks stand in front. An empty level is no restriction, and so is an empty
directive, but one of blanks is none. -/
def checkDirective (cs : List Char) : Except FilterFault Unit := do
  if cs.isEmpty then return ()
  let (front, body, behind) := splitBlanks cs
  if let some level ← level? body then
    let level := level ++ behind
    unless front.isEmpty && (level.isEmpty || isLevel level) do throw .badLevel

def check (text : String) : Except FilterFault Unit :=
  (text.toList.splitOn ',').forM checkDirective

end LogFilter
end DuplexRpc.Telemetry
