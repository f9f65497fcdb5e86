import LocalCloud.Error
import LocalCloud.Text.Split
import LocalCloud.Text.Whitespace

/-!
# Bearer headers

The `Authorization` header that carries a token: the word `Bearer`, one space and
the token.
-/

namespace LocalCloud.Bearer

def scheme : String := "Bearer"

def header (token : String) : String := scheme ++ " " ++ token

/-- The token in a header value.  White space around the header and around the
token does not count, but a space must separate scheme and token. -/
def token (header : Option String) : Except Error String :=
  match header with
  | none => .error (.invalidToken "missing authorization header")
  | some header =>
    match Text.splitOnce? ' ' (Text.stripChars Text.isBlank header.toList) with
    | none => .error (.invalidToken "authorization header has no scheme")
    | some (found, rest) =>
      if found ≠ scheme.toList then
        .error (.invalidToken ("unsupported scheme '" ++ String.ofList found ++ "'"))
      else
        let token := Text.stripChars Text.isBlank rest
        if token.isEmpty then .error (.invalidToken "empty bearer token")
        else .ok (String.ofList token)

end LocalCloud.Bearer
