/-
# Declaration.SyntaxError -- why tokens make no declaration
-/
import Cqrs.Declaration.Token

namespace Cqrs.Declaration

set_option autoImplicit false

/-- Why a text is no declaration, or no part of one. -/
inductive SyntaxError where
  /-- The text cannot be split into tokens. -/
  | noTokens
  /-- None of the wanted things stands here, where the tokens may have ended. -/
  | expected (wanted : List String) (ended : Bool)
  /-- The marks of an operator do not stand here. -/
  | expectedMarks (marks : String)
  /-- A reserved word stands where a name should. -/
  | reservedWord (word : String)
  /-- Nothing can stand here, where the tokens may have ended. -/
  | unexpected (ended : Bool)
  /-- Tokens are left over, inside of brackets or of none. -/
  | leftOver (within : Option Bracket)
  /-- What stands here is not allowed, for a reason. -/
  | notAllowed (reason : String)
deriving DecidableEq, Repr

namespace SyntaxError

def message : SyntaxError → String
  | .noTokens => "cannot parse string into token stream"
  | .expected wanted ended =>
      (if ended then "unexpected end of input, " else "") ++
        match wanted with
        | [one] => "expected " ++ one
        | [one, other] => "expected " ++ one ++ " or " ++ other
        | wanted => "expected one of: " ++ ", ".intercalate wanted
  | .expectedMarks marks => "expected \x60" ++ marks ++ "\x60"
  | .reservedWord word => "expected identifier, found keyword \x60" ++ word ++ "\x60"
  | .unexpected ended => if ended then "unexpected end of input" else "unexpected token"
  | .leftOver none => "unexpected token"
  | .leftOver (some bracket) =>
      "unexpected token, expected \x60" ++ String.ofList [bracket.closing] ++ "\x60"
  | .notAllowed reason => reason

end SyntaxError

end Cqrs.Declaration
