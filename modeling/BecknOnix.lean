import BecknOnix.Go.Strings
import BecknOnix.Go.Errors
import BecknOnix.Handler.Context
import BecknOnix.Handler.AuthHeader
import BecknOnix.Handler.Step
import BecknOnix.Handler.StepSpec
import BecknOnix.Response.Encoder
import BecknOnix.Response.SendNackSpec
import BecknOnix.Handler.StdHandler
import BecknOnix.Handler.Serve
import BecknOnix.Handler.PipelineSpec
import BecknOnix.Handler.DispatchSpec
import BecknOnix.Handler.InitStepsSpec
import BecknOnix.Handler.ConfigSpec
import BecknOnix.Handler.AnswerSpec
import BecknOnix.Handler.HeaderSpec
import BecknOnix.SchemaValidator.Index
import BecknOnix.SchemaValidator.IndexSpec
import BecknOnix.SchemaValidator.CompileCache
import BecknOnix.SchemaValidator.CompileCacheSafety
import BecknOnix.SchemaValidator.CompileCacheLookup
import BecknOnix.SchemaValidator.CompileCacheProgress
import BecknOnix.SchemaValidator.Validate
import BecknOnix.Adapter.Rejection
