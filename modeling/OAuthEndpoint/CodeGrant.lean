import OAuthEndpoint.Dispatch

/-! The authorization code grant: the handler of the response type `code`, and the codes it hands
out.  A random code is 32 bytes in base64url without padding. -/

namespace OAuthEndpoint.CodeGrant

/-- Makes a code for a request. -/
abbrev Issuer := AuthorizationRequest → Except AuthError String

/-- The base64url character of a number below 64. -/
def base64Char (n : Nat) : Char :=
  if n < 26 then Char.ofNat ('A'.toNat + n)
  else if n < 52 then Char.ofNat ('a'.toNat + (n - 26))
  else if n < 62 then Char.ofNat ('0'.toNat + (n - 52))
  else if n = 62 then '-' else '_'

/-- Base64url without padding: six bits to a character, the last ones filled up with zeros. -/
def base64Url : List UInt8 → List Char
  | [] => []
  | [a] =>
    let n := a.toNat * 16
    [n / 64, n % 64].map base64Char
  | [a, b] =>
    let n := (a.toNat * 256 + b.toNat) * 4
    [n / 4096, n / 64 % 64, n % 64].map base64Char
  | a :: b :: c :: rest =>
    let n := a.toNat * 65536 + b.toNat * 256 + c.toNat
    [n / 262144, n / 4096 % 64, n / 64 % 64, n % 64].map base64Char ++ base64Url rest

/-- The code that 32 random bytes make. -/
def codeOfEntropy (entropy : List UInt8) : String := String.ofList (base64Url (entropy.take 32))

/-- Issues the code of fresh random bytes. -/
def Issuer.ofEntropy (entropy : List UInt8) : Issuer := fun _ => .ok (codeOfEntropy entropy)

/-- Responsible wherever `code` is among the response types.  Adds the code, and the state unless a
handler before did. -/
def handler (Session : Type) (issuer : Issuer) : Handler Session where
  name := "code"
  run request _ _ response :=
    if request.responseTypes.contains "code" then
      match issuer request with
      | .error error => ({}, .error error)
      | .ok code =>
        let state :=
          if (response.queryValues "state").isEmpty then [("state", request.state)] else []
        ({ query := ("code", code) :: state }, .ok .handled)
    else ({}, .ok .notResponsible)

end OAuthEndpoint.CodeGrant
