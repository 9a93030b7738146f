import Relink.Text.Occurrence
import Relink.Text.Pieces

/-!
# Addresses without credentials

What stands before the last `@` of an address is a secret. Two texts without it are made: the
address as it is shown in failures, and the one shown in the log.

* `bare_of_no_at`: an address without `@` is shown as it is.
-/

namespace Relink.Uri

/-- The mark between the scheme and the rest of an address. -/
def schemeMark : List Char := [':', '/', '/']

/-- The address without credentials, for failures: the scheme, and what follows the last `@` of
the rest. -/
def bare (uri : String) : String :=
  if uri.toList.contains '@' then
    match Text.cut? schemeMark uri.toList with
    | some (scheme, rest) =>
      String.ofList scheme ++ "://" ++ Text.lastPiece '@' (String.ofList rest)
    | none => Text.lastPiece '@' uri
  else uri

theorem bare_of_no_at {uri : String} (h : '@' ∉ uri.toList) : bare uri = uri := by
  simp [bare, h]

/-- The address without credentials, for the log: what follows the last `@`, with the scheme put
back in front if it was cut off. -/
def logged (uri : String) : String :=
  let host := Text.lastPiece '@' uri
  if Text.occurs schemeMark host.toList then host
  else
    let scheme := match Text.cut? schemeMark uri.toList with
      | some (scheme, _) => String.ofList scheme
      | none => uri
    scheme ++ "://" ++ host

end Relink.Uri
