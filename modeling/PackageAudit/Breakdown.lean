namespace PackageAudit

inductive Breakdown where
  | missingFile
  | directory
  | notDirectory
  /-- A file stands where a directory is to be. -/
  | occupied
  | undecodable
  | malformedDocument
  | longInteger
  | deepNesting
  | noMember
  | wrongType
  | tooLarge
  | malformedRule
  | emptyRange
  | malformedMarkup
deriving DecidableEq, Inhabited

def Breakdown.message : Breakdown → String
  | missingFile => "no such file or directory"
  | directory => "a directory is no file"
  | notDirectory => "a file is no directory"
  | occupied => "a file stands in the way of a directory"
  | undecodable => "a file holds octets that are no text"
  | malformedDocument => "a document is malformed"
  | longInteger => "a number has too many digits"
  | deepNesting => "a document is nested too deeply"
  | noMember => "a value has no such member"
  | wrongType => "a value is of the wrong type"
  | tooLarge => "a number is too large"
  | malformedRule => "an ignore rule is malformed"
  | emptyRange => "a range in an ignore rule is empty"
  | malformedMarkup => "a closing tag closes nothing"

end PackageAudit
