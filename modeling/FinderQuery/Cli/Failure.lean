import FinderQuery.CompileError

namespace FinderQuery.Cli

/-- What the system says of a stream that cannot be read. It begins with a letter. -/
structure Complaint where
  text : String
  letter : text.toList.head?.any Char.isAlpha
  deriving DecidableEq

namespace Complaint

def notUtf8 : Complaint := ⟨"stream did not contain valid UTF-8", by decide⟩

def unnamed : Complaint := ⟨"input/output error", by decide⟩

end Complaint

inductive Failure where
  | unreadableConfig (path reason : String)
  | invalidConfig (path : String)
  | noEntity
  | unknownEntity (name : String)
  | unreadableRequest (path reason : String)
  | unreadableInput (complaint : Complaint)
  | invalidRequest (path : String)
  | uncompilable (error : CompileError)
  | unknownDirection (word : String)
  deriving DecidableEq

def Failure.message : Failure → String
  | unreadableConfig path reason => "failed to read entity config " ++ path ++ ": " ++ reason
  | invalidConfig path => "failed to parse entity config " ++ path ++ ": not an entity config"
  | noEntity => "no entity selected; pass --entity or set default_entity in the config"
  | unknownEntity name => "entity '" ++ name ++ "' not found in config"
  | unreadableRequest path reason => "failed to read request " ++ path ++ ": " ++ reason
  | unreadableInput complaint => complaint.text
  | invalidRequest path => "invalid request " ++ path ++ ": not a compile request"
  | uncompilable error => error.messageWithCode
  | unknownDirection word => "invalid sort direction '" ++ word ++ "'"

end FinderQuery.Cli
