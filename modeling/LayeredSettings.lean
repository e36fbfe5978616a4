import LayeredSettings.Session
import LayeredSettings.Proofs.Merge
import LayeredSettings.Proofs.Plan
import LayeredSettings.Proofs.Ordered
import LayeredSettings.Proofs.Outcome
import LayeredSettings.Proofs.Session
import LayeredSettings.Proofs.Base64
import LayeredSettings.Proofs.Utf8
import LayeredSettings.Proofs.SecretManager
import LayeredSettings.Proofs.Documents
import LayeredSettings.Proofs.Paths
import LayeredSettings.Proofs.Rows
import LayeredSettings.Proofs.Lookup
import LayeredSettings.Proofs.RowKeys
import LayeredSettings.Proofs.Utf8Order
import LayeredSettings.Proofs.Selection
import LayeredSettings.Proofs.Fallback
import LayeredSettings.Proofs.Text
import LayeredSettings.Proofs.Recipe
import LayeredSettings.Proofs.Wiring
import LayeredSettings.Proofs.Targets
import LayeredSettings.Proofs.Requests
import LayeredSettings.Proofs.Modes
import LayeredSettings.Proofs.Environment
import LayeredSettings.Proofs.VariableNames
import LayeredSettings.Proofs.Binding
import LayeredSettings.Proofs.FileTrees
import LayeredSettings.Proofs.EnvFile
import LayeredSettings.Proofs.Isolation
import LayeredSettings.Proofs.Tokens
import LayeredSettings.Proofs.RecipeWriting
import LayeredSettings.Proofs.Malformed
import LayeredSettings.Proofs.ResourceNames
import LayeredSettings.Proofs.Addresses
import LayeredSettings.Proofs.StoreKeys
import LayeredSettings.Proofs.Rounding
import LayeredSettings.Proofs.Integers
import LayeredSettings.Proofs.Durations
import LayeredSettings.Proofs.DurationRange
import LayeredSettings.Proofs.Inference
import LayeredSettings.Proofs.Checksums
import LayeredSettings.Proofs.FileEdits
import LayeredSettings.Proofs.StoredForms
import LayeredSettings.Proofs.SearchPaths
import LayeredSettings.Proofs.AddedPaths
import LayeredSettings.Proofs.Spellings
import LayeredSettings.Proofs.TableNames
import LayeredSettings.Proofs.Layers
