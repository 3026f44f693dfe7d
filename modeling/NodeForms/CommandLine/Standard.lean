import NodeForms.CommandLine.Surroundings
import NodeForms.Document.Yaml.Grammar
import NodeForms.Terminal.Screen

/-!
# The surroundings of the program

What the program itself runs in: its own reader of arguments and of YAML, a screen that is no
terminal, and the usual limit on digits. A text loses the orders for terminals when it is put out.
-/

namespace NodeForms

namespace Screen

/-- What follows an order for terminals, if the characters after an escape character are one: an
opening bracket, digits and a few signs, and a letter. -/
def afterOrder? : List Char → Option (List Char)
  | '[' :: rest =>
      match rest.dropWhile fun c => c.isDigit || c == ';' || c == '?' with
      | c :: rest => if c.isAlpha then some rest else none
      | [] => none
  | _ => none

theorem length_afterOrder? {chars rest : List Char} (isOrder : afterOrder? chars = some rest) :
    rest.length < chars.length := by
  unfold afterOrder? at isOrder
  split at isOrder
  case h_2 => cases isOrder
  case h_1 after =>
    have shorter := (List.dropWhile_sublist
      (l := after) fun c => c.isDigit || c == ';' || c == '?').length_le
    split at isOrder
    case h_2 => cases isOrder
    case h_1 c others found =>
      split at isOrder
      case isFalse => cases isOrder
      case isTrue =>
        obtain rfl := Option.some.inj isOrder
        rw [found, List.length_cons] at shorter
        rw [List.length_cons]
        omega

def withoutOrders : List Char → List Char
  | [] => []
  | c :: rest =>
      if c = '\x1b' then
        match _isOrder : afterOrder? rest with
        | some others => withoutOrders others
        | none => c :: withoutOrders rest
      else c :: withoutOrders rest
termination_by chars => chars.length
decreasing_by
  · have := length_afterOrder? _isOrder
    simp only [List.length_cons]
    omega
  all_goals simp

def echo (text : String) : String := String.ofList (withoutOrders text.toList) ++ "\n"

end Screen

namespace Surroundings

def standard : Surroundings where
  readArguments := Command.read
  readYaml := Yaml.read
  echo text := .ok (Screen.echo text)
  print text := (Screen.ofText text).mapError .style
  printTable table := (Screen.ofTable table).mapError .style
  digitLimit := some 4300

end Surroundings

end NodeForms
