/-!
# Kinds of errors

Every error has a kind, and the kinds form a hierarchy: whoever handles a kind handles all the
kinds below it. The library's own kinds lie below `library`; the others are those that drivers,
callbacks and the surroundings raise.
-/

namespace AnnotatedSql

/-- What an error is, from the most general kind down. -/
inductive ErrorKind where
  | anyError
  | generatorExit
  | keyboardInterrupt
  | error
  | arithmetic
  | overflow
  | attributeAccess
  | lookup
  | index
  | key
  | runtime
  | stopIteration
  | type
  | value
  | unicode
  | unicodeDecode
  | system
  | blocking
  | childProcess
  | connection
  | brokenPipe
  | connectionAborted
  | connectionRefused
  | connectionReset
  | fileExists
  | fileNotFound
  | interrupted
  | isADirectory
  | notADirectory
  | permission
  | processLookup
  | timeout
  | driver
  | driverDatabase
  | driverOperational
  | driverIntegrity
  | library
  | improperConfiguration
  | statementCompile
  | statementSyntax
  | unterminatedStatement
  | duplicateName
  | unboundParameter
  | mixedMultiplicity
  | kindMismatch
  | unusedParameter
  | noRows
  | rowCallback
  | parameterType
  | engine
  | sqlFileNotFound
  | sqlFileParse
  deriving DecidableEq, Repr

namespace ErrorKind

/-- All kinds. -/
def all : List ErrorKind :=
  [anyError, generatorExit, keyboardInterrupt, error, arithmetic, overflow, attributeAccess,
    lookup, index, key, runtime, stopIteration, type, value, unicode, unicodeDecode, system,
    blocking, childProcess, connection, brokenPipe, connectionAborted, connectionRefused,
    connectionReset, fileExists, fileNotFound, interrupted, isADirectory, notADirectory,
    permission, processLookup, timeout, driver, driverDatabase, driverOperational,
    driverIntegrity, library, improperConfiguration, statementCompile, statementSyntax,
    unterminatedStatement, duplicateName, unboundParameter, mixedMultiplicity, kindMismatch,
    unusedParameter, noRows, rowCallback, parameterType, engine, sqlFileNotFound, sqlFileParse]

/-- The name an error of this kind is reported under. -/
def label : ErrorKind → String
  | anyError => "BaseException"
  | generatorExit => "GeneratorExit"
  | keyboardInterrupt => "KeyboardInterrupt"
  | error => "Exception"
  | arithmetic => "ArithmeticError"
  | overflow => "OverflowError"
  | attributeAccess => "AttributeError"
  | lookup => "LookupError"
  | index => "IndexError"
  | key => "KeyError"
  | runtime => "RuntimeError"
  | stopIteration => "StopIteration"
  | type => "TypeError"
  | value => "ValueError"
  | unicode => "UnicodeError"
  | unicodeDecode => "UnicodeDecodeError"
  | system => "OSError"
  | blocking => "BlockingIOError"
  | childProcess => "ChildProcessError"
  | connection => "ConnectionError"
  | brokenPipe => "BrokenPipeError"
  | connectionAborted => "ConnectionAbortedError"
  | connectionRefused => "ConnectionRefusedError"
  | connectionReset => "ConnectionResetError"
  | fileExists => "FileExistsError"
  | fileNotFound => "FileNotFoundError"
  | interrupted => "InterruptedError"
  | isADirectory => "IsADirectoryError"
  | notADirectory => "NotADirectoryError"
  | permission => "PermissionError"
  | processLookup => "ProcessLookupError"
  | timeout => "TimeoutError"
  | driver => "Error"
  | driverDatabase => "DatabaseError"
  | driverOperational => "OperationalError"
  | driverIntegrity => "IntegrityError"
  | library => "SQLIncludeError"
  | improperConfiguration => "ImproperConfigurationError"
  | statementCompile => "StatementCompileError"
  | statementSyntax => "StatementSyntaxError"
  | unterminatedStatement => "UnterminatedStatementError"
  | duplicateName => "DuplicateNameError"
  | unboundParameter => "UnboundParameterError"
  | mixedMultiplicity => "MixedMultiplicityError"
  | kindMismatch => "KindMismatchError"
  | unusedParameter => "UnusedParameterError"
  | noRows => "NoRowsError"
  | rowCallback => "RowCallbackError"
  | parameterType => "ParameterTypeError"
  | engine => "EngineError"
  | sqlFileNotFound => "SQLFileNotFoundError"
  | sqlFileParse => "SQLFileParseError"

/-- The kind reported under a name. -/
def ofLabel? (s : String) : Option ErrorKind :=
  all.find? fun k => k.label == s

/-- The kind and all kinds above it, the nearest first. -/
def lineage : ErrorKind → List ErrorKind
  | anyError => [anyError]
  | generatorExit => [generatorExit, anyError]
  | keyboardInterrupt => [keyboardInterrupt, anyError]
  | error => [error, anyError]
  | arithmetic => [arithmetic, error, anyError]
  | overflow => [overflow, arithmetic, error, anyError]
  | attributeAccess => [attributeAccess, error, anyError]
  | lookup => [lookup, error, anyError]
  | index => [index, lookup, error, anyError]
  | key => [key, lookup, error, anyError]
  | runtime => [runtime, error, anyError]
  | stopIteration => [stopIteration, error, anyError]
  | type => [type, error, anyError]
  | value => [value, error, anyError]
  | unicode => [unicode, value, error, anyError]
  | unicodeDecode => [unicodeDecode, unicode, value, error, anyError]
  | system => [system, error, anyError]
  | blocking => [blocking, system, error, anyError]
  | childProcess => [childProcess, system, error, anyError]
  | connection => [connection, system, error, anyError]
  | brokenPipe => [brokenPipe, connection, system, error, anyError]
  | connectionAborted => [connectionAborted, connection, system, error, anyError]
  | connectionRefused => [connectionRefused, connection, system, error, anyError]
  | connectionReset => [connectionReset, connection, system, error, anyError]
  | fileExists => [fileExists, system, error, anyError]
  | fileNotFound => [fileNotFound, system, error, anyError]
  | interrupted => [interrupted, system, error, anyError]
  | isADirectory => [isADirectory, system, error, anyError]
  | notADirectory => [notADirectory, system, error, anyError]
  | permission => [permission, system, error, anyError]
  | processLookup => [processLookup, system, error, anyError]
  | timeout => [timeout, system, error, anyError]
  | driver => [driver, error, anyError]
  | driverDatabase => [driverDatabase, driver, error, anyError]
  | driverOperational => [driverOperational, driverDatabase, driver, error, anyError]
  | driverIntegrity => [driverIntegrity, driverDatabase, driver, error, anyError]
  | library => [library, error, anyError]
  | improperConfiguration => [improperConfiguration, library, error, anyError]
  | statementCompile => [statementCompile, library, error, anyError]
  | statementSyntax => [statementSyntax, statementCompile, library, error, anyError]
  | unterminatedStatement =>
    [unterminatedStatement, statementSyntax, statementCompile, library, error, anyError]
  | duplicateName => [duplicateName, statementCompile, library, error, anyError]
  | unboundParameter => [unboundParameter, statementCompile, library, error, anyError]
  | mixedMultiplicity => [mixedMultiplicity, statementCompile, library, error, anyError]
  | kindMismatch => [kindMismatch, statementCompile, library, error, anyError]
  | unusedParameter => [unusedParameter, statementCompile, library, error, anyError]
  | noRows => [noRows, library, error, anyError]
  | rowCallback => [rowCallback, library, error, anyError]
  | parameterType => [parameterType, library, type, error, anyError]
  | engine => [engine, library, error, anyError]
  | sqlFileNotFound => [sqlFileNotFound, library, error, anyError]
  | sqlFileParse => [sqlFileParse, library, error, anyError]

/-- The kind is the other one or lies below it. -/
def isBelow (k above : ErrorKind) : Bool :=
  k.lineage.contains above

/-- One of the library's own kinds. -/
def isLibrary (k : ErrorKind) : Bool :=
  k.isBelow library

end ErrorKind

end AnnotatedSql
