/-!
# Output conventions

The three ways in which the module text of a lexer can be laid out.
-/

namespace LexGen

/-- How an emitted module hands out its scanner. -/
inductive Convention where
  | bare
  | syncImport
  | asyncDefine
  deriving DecidableEq, Repr

namespace Convention

def name : Convention → String
  | bare => "bare"
  | syncImport => "sync-import"
  | asyncDefine => "async-define"

def symbol : Convention → String
  | bare => "BARE"
  | syncImport => "SYNC_IMPORT"
  | asyncDefine => "ASYNC_DEFINE"

def names : List (String × Convention) :=
  [("amd", asyncDefine), ("async-define", asyncDefine), ("bare", bare), ("commonjs", syncImport),
   ("js", bare), ("sync-import", syncImport)]

def ofName? (name : String) : Option Convention :=
  names.lookup name

end Convention

end LexGen
