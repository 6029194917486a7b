import Runbook.Tag
import Runbook.Text.Letter

/-!
# Document names

A document is named `Digito-<body><suffix>_<date>`. The body starts with an upper-case letter,
holds letters and digits only, and mentions the service, upper and lower case alike.
-/

namespace Runbook

/-- What is wrong with a document name. The parts are checked from the outside in, and the first
fault counts. -/
inductive NameFault where
  | lead
  | noDate
  | otherDate (found expected : String)
  | noSuffix (suffix : String)
  | lowerStart
  | otherCharacter
  | noAlias (word : String)
deriving DecidableEq, Repr

namespace DocumentName

/-- What every document name begins with. -/
def lead : String := "Digito-"

/-- What a text holds before the last occurrence of a character, and after it. -/
def cutAtLast (sep : Char) (text : List Char) : Option (List Char × List Char) :=
  let after := text.reverse.takeWhile fun c => c ≠ sep
  match text.reverse.dropWhile fun c => c ≠ sep with
  | [] => none
  | _ :: before => some (before.reverse, after.reverse)

/-- What a text holds before a given ending. -/
def dropEnding (ending text : List Char) : Option (List Char) :=
  (Text.dropLead ending.reverse text.reverse).map List.reverse

/-- The first fault of the part of a name that is between the lead and the suffix. -/
def bodyFault? (body : List Char) (word : String) : Option NameFault :=
  if !(body.head?.any Text.isUpper) then some .lowerStart
  else if !body.all Text.isAlphanumeric then some .otherCharacter
  else if !Text.contains (Text.lowered word.toList) (Text.lowered body) then some (.noAlias word)
  else none

/-- The first fault of a name, for a suffix, a date and a service to mention. -/
def fault? (name suffix date word : String) : Option NameFault :=
  match Text.dropLead lead.toList name.toList with
  | none => some .lead
  | some rest =>
      match cutAtLast '_' rest with
      | none => some .noDate
      | some (head, found) =>
          if found ≠ date.toList then some (.otherDate (String.ofList found) date)
          else
            match dropEnding suffix.toList head with
            | none => some (.noSuffix suffix)
            | some body => bodyFault? body word

end DocumentName

/-- The display text of a fault. -/
def NameFault.message : NameFault → String
  | .lead => "must start with '" ++ DocumentName.lead ++ "'"
  | .noDate => "must end with '_<date>'"
  | .otherDate found expected =>
      "has date version '" ++ found ++ "' but its directory date is '" ++ expected ++ "'"
  | .noSuffix suffix => "must end with '" ++ suffix ++ "_<date>'"
  | .lowerStart => "must start its action with an uppercase letter"
  | .otherCharacter => "must contain only letters and digits before the suffix"
  | .noAlias word => "must mention the service alias '" ++ word ++ "'"

end Runbook
