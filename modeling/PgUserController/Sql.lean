-- SUMMARY: The SQL the `DatabaseClient` composes with `psycopg2.sql`: composables, identifier quoting, a lexer for quoted identifiers, and the statement templates.
import Mathlib.Data.List.Infix
import PgUserController.Config

/-!
# SQL composition

Every statement of `DatabaseClient` is built as
`sql.SQL(template).format(sql.Identifier(x), ...)`: literal SQL text with
identifiers spliced in by `sql.Identifier`, which double-quotes a name and doubles
the double quotes inside it. A template is given here by its literal text between
the `{}` placeholders.

`lex` is the part of the server's lexer that matters here: a double quote opens a
quoted identifier, in which `""` stands for one double quote and a lone `"` closes
it; every other character is a token of its own. `lex_render` says that each
`sql.Identifier` of a composed statement comes back as exactly one identifier token
carrying its name, whatever characters the name holds.

The server's lexer also reads string literals (`'...'`, and `$$...$$`) and
comments (`--` to the end of the line, `/* ... */`), which `lex` does not. Inside
a quoted identifier they are plain characters, and the templates' own text opens
none of them but the closed literals of the denylist; so they matter only in text
that `sql.SQL` splices in raw, which `InertText` keeps free of them.
-/

namespace PgUserController

/-- A piece of a composed statement: literal SQL text (`sql.SQL`) or a quoted
    identifier (`sql.Identifier`). -/
inductive Composable where
  | sql (text : String)
  | ident (name : String)
  deriving DecidableEq, Repr

/-- `sql.SQL(template).format(*args)`, the template given as its literal text
    between the `{}` placeholders. -/
def sqlFormat : List String → List Composable → List Composable
  | t :: ts, a :: as => .sql t :: a :: sqlFormat ts as
  | ts, _ => ts.map .sql

/-- The body of a quoted identifier: every double quote doubled. -/
def escapeIdent : List Char → List Char
  | [] => []
  | c :: cs => (if c = '"' then ['"', '"'] else [c]) ++ escapeIdent cs

/-- The characters of a composable as it is sent: `sql.Identifier` quotes. -/
def Composable.chars : Composable → List Char
  | .sql t => t.toList
  | .ident n => '"' :: escapeIdent n.toList ++ ['"']

/-- The text of a composed statement (`Composed.as_string`). -/
def render (parts : List Composable) : List Char := parts.flatMap Composable.chars

/-- A token of the lexer: a quoted identifier, a character outside quotes, or an
    identifier left open at the end of the text. -/
inductive Token where
  | ident (name : List Char)
  | char (c : Char)
  | unterminated (name : List Char)
  deriving DecidableEq, Repr

/-- The lexer, as a state machine: `acc = some name` inside a quoted identifier. -/
def lexFrom : List Char → Option (List Char) → List Token
  | [], none => []
  | [], some acc => [.unterminated acc]
  | '"' :: '"' :: cs, some acc => lexFrom cs (some (acc ++ ['"']))
  | '"' :: cs, some acc => .ident acc :: lexFrom cs none
  | c :: cs, some acc => lexFrom cs (some (acc ++ [c]))
  | '"' :: cs, none => lexFrom cs (some [])
  | c :: cs, none => .char c :: lexFrom cs none

/-- Lexing a text from its start. -/
def lex (cs : List Char) : List Token := lexFrom cs none

/-- Text that opens nothing `lex` leaves out: no double or single quote, no
    dollar sign, and no `--` or `/*`. Spliced in raw, it leaves the server's lexer
    outside any identifier, literal or comment, as `lex` is. -/
def InertText (t : List Char) : Prop :=
  '"' ∉ t ∧ Char.ofNat 39 ∉ t ∧ '$' ∉ t ∧ ¬ ['-', '-'] <:+: t ∧ ¬ ['/', '*'] <:+: t

instance (t : List Char) : Decidable (InertText t) := inferInstanceAs (Decidable (_ ∧ _))

/-- The tokens a composable should lex to. -/
def Composable.tokens : Composable → List Token
  | .sql t => t.toList.map .char
  | .ident n => [.ident n.toList]

/-- Literal parts free of double quotes, and no identifier directly followed by a
    double quote (which would read as an escaped quote inside it). -/
def Separated : List Composable → Prop
  | [] => True
  | .sql t :: ps => '"' ∉ t.toList ∧ Separated ps
  | .ident _ :: ps => (render ps).head? ≠ some '"' ∧ Separated ps

/-- Inside a quoted identifier, an escaped name is read back whole, and lexing
    resumes after its closing quote. -/
theorem lexFrom_escapeIdent (n acc rest : List Char) (hr : rest.head? ≠ some '"') :
    lexFrom (escapeIdent n ++ '"' :: rest) (some acc) = .ident (acc ++ n) :: lexFrom rest none := by
  induction n generalizing acc with
  | nil =>
    cases rest with
    | nil => simp [escapeIdent, lexFrom]
    | cons d ds =>
      have hd : d ≠ '"' := fun h => hr (by simp [h])
      simp [escapeIdent, lexFrom, hd]
  | cons c cs ih =>
    by_cases hc : c = '"'
    · subst hc; simp [escapeIdent, lexFrom, ih]
    · have : lexFrom (c :: (escapeIdent cs ++ '"' :: rest)) (some acc) =
          lexFrom (escapeIdent cs ++ '"' :: rest) (some (acc ++ [c])) := by
        cases h : escapeIdent cs ++ '"' :: rest with
        | nil => simp at h
        | cons d ds => simp [lexFrom, hc]
      simp [escapeIdent, hc, this, ih]

/-- Outside quotes, text without a double quote lexes character by character. -/
theorem lexFrom_plain (t rest : List Char) (ht : '"' ∉ t) :
    lexFrom (t ++ rest) none = t.map .char ++ lexFrom rest none := by
  induction t with
  | nil => rfl
  | cons c cs ih =>
    have hc : c ≠ '"' := fun h => ht (h ▸ List.mem_cons_self _ _)
    have hcs : '"' ∉ cs := fun h => ht (List.mem_cons_of_mem _ h)
    simp [lexFrom, hc, ih hcs]

/-- A separated composed statement lexes to its parts: each identifier is one
    token carrying its name. -/
theorem lex_render (parts : List Composable) (h : Separated parts) :
    lex (render parts) = parts.flatMap Composable.tokens := by
  induction parts with
  | nil => rfl
  | cons p ps ih =>
    cases p with
    | sql t =>
      obtain ⟨ht, hps⟩ := h
      simp only [render, lex, List.flatMap_cons, Composable.chars, Composable.tokens] at ih ⊢
      rw [lexFrom_plain _ _ ht, ih hps]
    | ident n =>
      obtain ⟨hn, hps⟩ := h
      simp only [render, lex, List.flatMap_cons, Composable.chars, Composable.tokens,
        List.cons_append, List.append_assoc, List.nil_append] at ih hn ⊢
      rw [lexFrom, lexFrom_escapeIdent _ _ _ hn, ih hps, List.nil_append]

/-! ## Statements -/

/-- The statements `DatabaseClient` sends, with the names already turned into
    strings by `sql.Identifier` (or, for a privilege keyword, by `sql.SQL`). -/
inductive Stmt where
  | createRole (role : String)
  | dropRoleIfExists (role : String)
  | createUser (user password : String)
  | grantConnect (database user : String)
  | grantRole (role user : String)
  | grantPrivilege (privilege object user : String)
  | revokeRole (role user : String)
  | revokeAllOnDatabase (database user : String)
  | reassignOwned (user target : String)
  | dropOwned (user : String)
  | dropUserIfExists (user : String)
  | selectUsers
  | selectRoles
  | selectUserRoles (user : Scalar)
  deriving DecidableEq, Repr

/-- The denylist as `fetch_existing_users` splices it: `','.join(f"'{role}'" ...)`. -/
def systemRolesList : String := ",".intercalate (systemRoles.map fun r => "'" ++ r ++ "'")

namespace Stmt

/-- The statement as composed, its password and username parameters left as `%s`. -/
def compose : Stmt → List Composable
  | createRole r => sqlFormat ["CREATE ROLE ", " NOLOGIN;"] [.ident r]
  | dropRoleIfExists r => sqlFormat ["DROP ROLE IF EXISTS ", ";"] [.ident r]
  | createUser u _ => sqlFormat ["CREATE USER ", " WITH PASSWORD %s;"] [.ident u]
  | grantConnect d u => sqlFormat ["GRANT CONNECT ON DATABASE ", " TO ", ";"] [.ident d, .ident u]
  | grantRole r u => sqlFormat ["GRANT ", " TO ", ";"] [.ident r, .ident u]
  | grantPrivilege p o u => sqlFormat ["GRANT ", " ON ", " TO ", ";"] [.sql p, .ident o, .ident u]
  | revokeRole r u => sqlFormat ["REVOKE ", " FROM ", ";"] [.ident r, .ident u]
  | revokeAllOnDatabase d u =>
    sqlFormat ["REVOKE ALL PRIVILEGES ON DATABASE ", " FROM ", ";"] [.ident d, .ident u]
  | reassignOwned u t => sqlFormat ["REASSIGN OWNED BY ", " TO ", ";"] [.ident u, .ident t]
  | dropOwned u => sqlFormat ["DROP OWNED BY ", ";"] [.ident u]
  | dropUserIfExists u => sqlFormat ["DROP USER IF EXISTS ", ";"] [.ident u]
  | selectUsers =>
    [.sql ("SELECT rolname FROM pg_roles WHERE rolname NOT IN (" ++ systemRolesList ++ ");")]
  | selectRoles =>
    [.sql ("SELECT rolname FROM pg_roles WHERE rolname NOT IN (" ++ systemRolesList ++
      ") AND NOT rolcanlogin;")]
  | selectUserRoles _ =>
    [.sql ("SELECT r.rolname FROM pg_roles r JOIN pg_auth_members m ON r.oid = m.roleid " ++
      "JOIN pg_roles u ON u.oid = m.member WHERE u.rolname = %s;")]

/-- Whether the statement only reads the catalog. -/
def isRead : Stmt → Bool
  | selectUsers | selectRoles | selectUserRoles _ => true
  | _ => false

/-- Every statement lexes as its template: the template's literal text, and one
    identifier token for each name that `sql.Identifier` spliced in, whatever the
    name holds. The privilege keyword, spliced in by `sql.SQL`, lexes as raw text
    of its own, and only when it is inert does even this much hold: a double quote
    in it would swallow the identifiers after it, and a quote, a dollar sign or a
    comment marker would do the same in the server's lexer. -/
theorem lex_compose (s : Stmt) (hs : ∀ p o u, s = grantPrivilege p o u → InertText p.toList) :
    lex (render s.compose) = s.compose.flatMap Composable.tokens := by
  refine lex_render _ ?_
  cases s <;> simp [Separated, compose, sqlFormat, render, Composable.chars] at hs ⊢
  all_goals first | exact hs.1 | decide

theorem lex_compose_select :
    (∀ p o u, grantPrivilege "SELECT" "t" "alice" = grantPrivilege p o u → InertText p.toList) ∧
    lex (render (grantPrivilege "SELECT" "t" "alice").compose) =
      (grantPrivilege "SELECT" "t" "alice").compose.flatMap Composable.tokens := by
  have hs : ∀ p o u, grantPrivilege "SELECT" "t" "alice" = grantPrivilege p o u → InertText p.toList := by
    rintro p o u ⟨⟩
    decide
  exact ⟨hs, lex_compose _ hs⟩

end Stmt

end PgUserController
