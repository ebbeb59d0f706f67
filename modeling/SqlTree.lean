import SqlTree.Text.Letter
import SqlTree.Text.Quoted
import SqlTree.Identifier
import SqlTree.Identifier.Parser
import SqlTree.BuildError
import SqlTree.Statement.Kind
import SqlTree.Build
import SqlTree.Placeholder
import SqlTree.Numeral
import SqlTree.Numeral.Binary
import SqlTree.Numeral.Shortest
import SqlTree.Token.Keyword
import SqlTree.Token
import SqlTree.Dialect
import SqlTree.Dialect.Document
import SqlTree.Column
import SqlTree.Operator
import SqlTree.Tree
import SqlTree.Tree.Tokens
import SqlTree.Tree.Equality
import SqlTree.Collection
import SqlTree.Window
import SqlTree.Call
import SqlTree.Case
import SqlTree.Condition
import SqlTree.Source
import SqlTree.Scope
import SqlTree.Join
import SqlTree.Select
import SqlTree.Change
import SqlTree.Statement
import SqlTree.Text.Truncation
import SqlTree.Render
import SqlTree.Proofs.Phrase
import SqlTree.Proofs.Phrase.Adjacency
import SqlTree.Proofs.Phrase.Rendering
import SqlTree.Proofs.Lexeme
import SqlTree.Proofs.Lexing
import SqlTree.Proofs.Spelling
import SqlTree.Proofs.Contents
import SqlTree.Proofs.Contents.Carrying
import SqlTree.Proofs.Contents.Rendering
import SqlTree.Proofs.LexicalFaithfulness
import SqlTree.Proofs.Scope
import SqlTree.Proofs.SelectRun
import SqlTree.Proofs.FromClause
import SqlTree.Proofs.Rewriting
import SqlTree.Proofs.Rewriting.Faithful
import SqlTree.Proofs.Qualification
import SqlTree.Proofs.Spelling.Distinct
import SqlTree.Proofs.Readable
import SqlTree.Proofs.Readable.Lead
import SqlTree.Proofs.Readable.Words
import SqlTree.Proofs.UniqueReading
import SqlTree.Proofs.Naming
import SqlTree.Proofs.Nesting
import SqlTree.Proofs.Clauses
import SqlTree.Proofs.Rewriting.Uniform
import SqlTree.Proofs.Vacuity
import SqlTree.Proofs.Reading.Connectives
import SqlTree.Proofs.Reading
import SqlTree.Proofs.Reading.Written
import SqlTree.Proofs.Meaning
import SqlTree.Proofs.OperatorChain
import SqlTree.Proofs.Parts
import SqlTree.Proofs.Parts.Wording
import SqlTree.Proofs.Parts.Rendering
import SqlTree.Proofs.Parts.Switches
import SqlTree.Proofs.Parts.Branches
import SqlTree.Proofs.Places
import SqlTree.Proofs.Places.Rendering
import SqlTree.Proofs.Parentheses
import SqlTree.Proofs.Operands
import SqlTree.Proofs.Brackets
import SqlTree.Proofs.Additions
import SqlTree.Proofs.Declarations
import SqlTree.Proofs.JoinTree
import SqlTree.Proofs.ScopeHistory
import SqlTree.Proofs.ChangeClauses
import SqlTree.Proofs.Removal
import SqlTree.Proofs.Arithmetic
import SqlTree.Proofs.Truncation
import SqlTree.Proofs.Serialization
import SqlTree.Proofs.Collections
