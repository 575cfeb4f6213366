import SqlTemplate.Cache
import SqlTemplate.Database
import SqlTemplate.Settings
import SqlTemplate.Proofs.Acceptance
import SqlTemplate.Proofs.CacheLimit
import SqlTemplate.Proofs.Canonical
import SqlTemplate.Proofs.Concatenation
import SqlTemplate.Proofs.ExactNumbers
import SqlTemplate.Proofs.Holes
import SqlTemplate.Proofs.InnermostPairs
import SqlTemplate.Proofs.LiveArguments
import SqlTemplate.Proofs.NumberLiterals
import SqlTemplate.Proofs.Pairing
import SqlTemplate.Proofs.QueryErrors
import SqlTemplate.Proofs.ShortArguments
import SqlTemplate.Proofs.UnambiguousLists
import SqlTemplate.Proofs.Unbraced
import SqlTemplate.Proofs.Walks
import SqlTemplate.Proofs.WholeNumbers
import SqlTemplate.Proofs.CursorRuns
import SqlTemplate.Proofs.NumeralLanguage
import SqlTemplate.Proofs.PositionalKeys
import SqlTemplate.Proofs.BuildLog
import SqlTemplate.Proofs.SettingValues
