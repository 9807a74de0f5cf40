import PxpAgent.Basic
import PxpAgent.Format
import PxpAgent.Validator
import PxpAgent.Request
import PxpAgent.FileUtils
import PxpAgent.ExternalModule.Load
import PxpAgent.ExternalModule.Call
import PxpAgent.Connector
import PxpAgent.PuppetModule.Ruby
import PxpAgent.PuppetModule.Run
import PxpAgent.PuppetModule.Script
import PxpAgent.ExternalModule.Loaded
