import ConferenceBridge.Registry
import ConferenceBridge.Settings.File

/-!
# References in the settings file

A value of the file may refer to a name, and the reference stands for the value of that name. Names
that the file has bound before come first, then the variables of the environment; for any other name
the reference may hold a text of its own.
-/

namespace ConferenceBridge.Settings

/-- A reference to a name. -/
structure Reference where
  /-- The name. -/
  name : List Char
  /-- What the reference stands for if the name is unknown. -/
  fallback : List Char
  /-- The number of characters of the reference. -/
  length : Nat
  deriving DecidableEq

/-- The reference at the start of a text: a name in braces after a dollar sign, perhaps followed by
a colon, a minus and the text for an unknown name. -/
def reference? (text : List Char) : Option Reference :=
  match text with
  | '$' :: '{' :: afterBrace =>
    let inName := fun c => c != '}' && c != ':'
    let name := afterBrace.takeWhile inName
    match afterBrace.dropWhile inName with
    | '}' :: rest => some { name, fallback := [], length := text.length - rest.length }
    | ':' :: '-' :: afterSign =>
      match afterSign.dropWhile (· != '}') with
      | _ :: rest =>
        let fallback := afterSign.takeWhile (· != '}')
        some { name, fallback, length := text.length - rest.length }
      | [] => none
    | _ => none
  | _ => none

/-- The text with its references replaced, after `skip` characters that are dealt with. -/
def replaceFrom (value : Reference → List Char) : (skip : Nat) → List Char → List Char
  | _, [] => []
  | skip + 1, _ :: rest => replaceFrom value skip rest
  | 0, c :: rest =>
    match reference? (c :: rest) with
    | some reference => value reference ++ replaceFrom value (reference.length - 1) rest
    | none => c :: replaceFrom value 0 rest

/-- What a reference stands for. A name that is bound to nothing stands for an empty text. -/
def Reference.value (environment : Registry String String)
    (bound : Registry String (Option String)) (reference : Reference) : List Char :=
  let name := String.ofList reference.name
  match bound.get? name, environment.get? name with
  | some value, _ => (value.getD "").toList
  | none, some value => value.toList
  | none, none => reference.fallback

/-- The names that a file binds with the values that they are bound to last, references replaced. -/
def resolve (environment : Registry String String) (bindings : List Binding) :
    Registry String (Option String) :=
  bindings.foldl (fun bound binding => bound.put binding.name (binding.value.map fun value =>
    String.ofList (replaceFrom (Reference.value environment bound) 0 value.toList))) .empty

end ConferenceBridge.Settings
